import HostTopology.Proofs.Acceptance
import HostTopology.Proofs.Chaining
import HostTopology.Proofs.Reprint

/-!
# Completion — the topologies for which validation and compilation come to an end

Problems of a topology are findings and keep nothing from being done. Only numbers do: those that are
read from the texts of ports (`Topology.HasNumerals`), and those that are written.

* `Topology.IsPrintable` — the indent and the numbers of replicas that are written are in range;
* `completes_iff` — validation gives a report, and compilation artifacts, exactly then.
-/

namespace HostTopology

open Validation AppHost

variable {r : Registry} {t : Topology} {o : RenderOptions} {i : ResourceInstance}

/-! ## Numbers that are written -/

/-- The indent is written where something is declared. A number of replicas is written in the AppHost if
it is above one, and in the manifest for every workload. -/
structure Topology.IsPrintable (r : Registry) (o : RenderOptions) (t : Topology) : Prop where
  indent : (∃ i ∈ t.sequence.ordered, (r.find? i.resourceType).isSome) →
    -RenderOptions.wordBound ≤ o.indentSize ∧ o.indentSize < RenderOptions.memoryBound
  replicas : ∀ i ∈ t.sequence.ordered, (r.find? i.resourceType).isSome → ∀ n, i.config.replicas = some n →
    1 < n ∨ isWorkload r i = true → n.natAbs < Text.numeralBound

theorem exists_indent?_iff : (∃ s, o.indent? = .ok s) ↔
    -RenderOptions.wordBound ≤ o.indentSize ∧ o.indentSize < RenderOptions.memoryBound := by
  have hbounds : RenderOptions.memoryBound < RenderOptions.wordBound := by decide
  rw [RenderOptions.indent?]
  split
  · rename_i hword
    simp only [Bool.or_eq_true, decide_eq_true_eq] at hword
    simp only [reduceCtorEq, exists_const, false_iff]
    omega
  · rename_i hword
    simp only [Bool.or_eq_true, decide_eq_true_eq] at hword
    split
    · simp only [reduceCtorEq, exists_const, false_iff]
      omega
    · simp only [Except.ok.injEq, exists_eq', true_iff]
      omega

theorem numbers_of_declare? {d : Declaration} (h : declare? r t i = some d) : d.numbers = (keptReplicas i).toList := by
  obtain ⟨type, -, hchain⟩ := exists_chain_of_declare? h
  have hlinks : (referenceChain r t i.id).filterMap ChainCall.number? = [] :=
    filterMap_of_isLink isLink_referenceChain (fun _ => rfl) (fun _ => rfl)
  calc d.numbers
      = (d.statements.flatMap Statement.chain).filterMap ChainCall.number? := by
        rw [Declaration.numbers, List.filterMap_flatMap]
    _ = (keptReplicas i).toList := by
        rw [hchain, List.filterMap_append, replicas_configChain, hlinks, List.append_nil]

theorem isSome_of_isWorkload (h : isWorkload r i = true) : (r.find? i.resourceType).isSome := by
  rw [isWorkload, Registry.categoryOf?, Registry.category?] at h
  cases htype : r.find? i.resourceType with
  | none => simp [htype] at h
  | some type => rfl

/-- Where nothing is wrong, the instances of known types are declared, and workloads are apps: numbers that are more
than one stand in declarations, and those of workloads in the manifest. -/
theorem Faultless.mem_numbers_iff (h : Faultless r t) {n : Int} : n ∈ Artifacts.numbers r t t.sequence.ordered ↔
    ∃ i ∈ t.sequence.ordered, (r.find? i.resourceType).isSome ∧ i.config.replicas = some n ∧ 1 < n ∨
      isWorkload r i = true ∧ Companion.maxReplicas i = n := by
  have hdeclared : n ∈ (t.sequence.ordered.filterMap (declare? r t)).flatMap Declaration.numbers ↔
      ∃ i ∈ t.sequence.ordered, (r.find? i.resourceType).isSome ∧ i.config.replicas = some n ∧ 1 < n := by
    constructor
    · intro hn
      rcases List.mem_flatMap.1 hn with ⟨d, hd, hn⟩
      rcases List.mem_filterMap.1 hd with ⟨i, hi, hd⟩
      rw [numbers_of_declare? hd, Option.mem_toList, keptReplicas] at hn
      obtain ⟨hcount, hmany⟩ := Option.filter_eq_some_iff.1 hn
      exact ⟨i, hi, isSome_find?_of_declare? hd, hcount, by simpa using hmany⟩
    · rintro ⟨i, hi, hknown, hcount, hmany⟩
      obtain ⟨d, hd⟩ := Option.isSome_iff_exists.1 (h.isSome_declare? (Topology.mem_of_mem_ordered hi) hknown)
      refine List.mem_flatMap.2 ⟨d, List.mem_filterMap.2 ⟨i, hi, hd⟩, ?_⟩
      rw [numbers_of_declare? hd, keptReplicas, hcount]
      simpa using hmany
  have hmanifest : n ∈ Companion.manifestNumbers r t.sequence.ordered ↔
      ∃ i ∈ t.sequence.ordered, isWorkload r i = true ∧ Companion.maxReplicas i = n := by
    rw [Companion.manifestNumbers, List.mem_map]
    simp only [List.mem_filter, and_assoc]
    refine exists_congr fun i => and_congr_right fun hi => and_congr_left fun _ => ?_
    have hname := h.name_ne_empty (Topology.mem_of_mem_ordered hi)
    simp [Companion.isApp, isWorkload, hname]
  rw [Artifacts.numbers, List.mem_append, hdeclared, hmanifest, ← exists_or]
  simp only [and_or_left]

theorem Faultless.numbers_iff (h : Faultless r t) : (∀ n ∈ Artifacts.numbers r t t.sequence.ordered,
      n.natAbs < Text.numeralBound) ↔
    ∀ i ∈ t.sequence.ordered, (r.find? i.resourceType).isSome → ∀ n, i.config.replicas = some n →
      1 < n ∨ isWorkload r i = true → n.natAbs < Text.numeralBound := by
  constructor
  · intro hnumbers i hi hknown n hn hwritten
    rcases hwritten with hmany | hworkload
    · exact hnumbers n (h.mem_numbers_iff.2 ⟨i, hi, Or.inl ⟨hknown, hn, hmany⟩⟩)
    · -- the manifest has ten in the place of zero
      by_cases hzero : n = 0
      · subst hzero
        exact lt_trans (by decide) ten_lt_numeralBound
      · have hmax : Companion.maxReplicas i = n := by
          rw [Companion.maxReplicas, hn]
          exact if_neg hzero
        exact hnumbers n (h.mem_numbers_iff.2 ⟨i, hi, Or.inr ⟨hworkload, hmax⟩⟩)
  · intro hreplicas n hn
    rcases h.mem_numbers_iff.1 hn with ⟨i, hi, ⟨hknown, hcount, hmany⟩ | ⟨hworkload, rfl⟩⟩
    · exact hreplicas i hi hknown n hcount (Or.inl hmany)
    · rw [Companion.maxReplicas]
      cases hcount : i.config.replicas with
      | none => exact ten_lt_numeralBound
      | some n =>
        change (if n = 0 then 10 else n).natAbs < Text.numeralBound
        split
        · exact ten_lt_numeralBound
        · exact hreplicas i hi (isSome_of_isWorkload hworkload) n hcount (Or.inr hworkload)

theorem Faultless.writable_iff (h : Faultless r t) :
    Writable r o t t.sequence.ordered ↔ t.IsPrintable r o := by
  have hindent : (∃ s, Artifacts.indent? r o t t.sequence.ordered = .ok s) ↔
      ((∃ i ∈ t.sequence.ordered, (r.find? i.resourceType).isSome) →
        -RenderOptions.wordBound ≤ o.indentSize ∧ o.indentSize < RenderOptions.memoryBound) := by
    have hnothing : (t.sequence.ordered.filterMap (declare? r t)).isEmpty = false ↔
        ∃ i ∈ t.sequence.ordered, (r.find? i.resourceType).isSome := by
      rw [List.isEmpty_eq_false_iff_exists_mem]
      constructor
      · rintro ⟨d, hd⟩
        rcases List.mem_filterMap.1 hd with ⟨i, hi, hd⟩
        exact ⟨i, hi, isSome_find?_of_declare? hd⟩
      · rintro ⟨i, hi, hknown⟩
        obtain ⟨d, hd⟩ := Option.isSome_iff_exists.1 (h.isSome_declare? (Topology.mem_of_mem_ordered hi) hknown)
        exact ⟨d, List.mem_filterMap.2 ⟨i, hi, hd⟩⟩
    rw [indent?_eq, ← hnothing, ← exists_indent?_iff]
    cases (t.sequence.ordered.filterMap (declare? r t)).isEmpty with
    | true => simp
    | false => simp
  exact ⟨fun hw => ⟨hindent.1 hw.indent, h.numbers_iff.1 hw.numbers⟩,
    fun hp => ⟨hindent.2 hp.indent, h.numbers_iff.2 hp.replicas⟩⟩

/-! ## Both runs -/

/-- A report with errors ends in a placeholder, for which nothing has to be written. -/
theorem exists_compile_iff {v : Report} (hv : t.validate r = .ok v) :
    (∃ a, t.compile r o = .ok a) ↔ (v.isValid = true → Writable r o t t.sequence.ordered) := by
  constructor
  · rintro ⟨a, ha⟩ hvalid
    rcases Except.bind_eq_ok_iff.1 ha with ⟨v', hv', ha⟩
    obtain rfl : v' = v := Except.ok.inj ((Except.mapError_eq_ok_iff.1 hv').symm.trans hv)
    rw [if_pos hvalid] at ha
    rcases Except.bind_eq_ok_iff.1 ha with ⟨s, hs, ha⟩
    rcases Except.bind_eq_ok_iff.1 ha with ⟨texts, htexts, -⟩
    exact ⟨⟨s, Except.mapError_eq_ok_iff.1 hs⟩, exists_writeNumeral_iff.1 ⟨texts, Except.mapError_eq_ok_iff.1 htexts⟩⟩
  · intro hwritable
    cases hvalid : v.isValid with
    | true =>
      have hfaultless := validate_isValid_iff.1 ⟨v, hv, hvalid⟩
      exact ⟨_, (compile_unblocked_iff.2 ⟨hfaultless, hwritable hvalid, rfl⟩).1⟩
    | false =>
      refine ⟨.blocked o (v.blocking.map Finding.message), Except.bind_eq_ok_iff.2 ⟨v, ?_, ?_⟩⟩
      · rw [hv, Except.mapError_ok]
      · rw [hvalid]
        rfl

/-- Validation gives a report exactly if the numbers that it reads are numerals. Compilation then gives
artifacts, unless the topology is valid and an indent or a number that it writes is out of range. -/
theorem completes_iff (r : Registry) (t : Topology) :
    ((∃ v, t.validate r = .ok v) ↔ t.HasNumerals r) ∧
      ∀ o, (∃ a, t.compile r o = .ok a) ↔
        t.HasNumerals r ∧ ((∃ v, t.validate r = .ok v ∧ v.isValid = true) → t.IsPrintable r o) := by
  refine ⟨exists_validate_iff, fun o => ?_⟩
  rw [← exists_validate_iff]
  constructor
  · rintro ⟨a, ha⟩
    rcases Except.bind_eq_ok_iff.1 ha with ⟨v, hv, -⟩
    have hv := Except.mapError_eq_ok_iff.1 hv
    refine ⟨⟨v, hv⟩, ?_⟩
    rintro ⟨v', hv', hvalid⟩
    have hfaultless := validate_isValid_iff.1 ⟨v', hv', hvalid⟩
    exact hfaultless.writable_iff.1 ((exists_compile_iff hv').1 ⟨a, ha⟩ hvalid)
  · rintro ⟨⟨v, hv⟩, hprintable⟩
    refine (exists_compile_iff hv).2 fun hvalid => ?_
    have hfaultless := validate_isValid_iff.1 ⟨v, hv, hvalid⟩
    exact hfaultless.writable_iff.2 (hprintable ⟨v, hv, hvalid⟩)

/-- A superscript is a digit and stands for no number. -/
theorem superscript_not_validated : (exposed none "²").validate .standard = .error .notDecimal ∧
    (exposed none "²").compile .standard .standard = .error (.numeral .notDecimal) := by
  constructor
  · rfl
  · rfl

end HostTopology
