import HostTopology.Proofs.Issues
import HostTopology.Proofs.Numbering

/-!
# Labels — the ids of issues, taken apart

The id of an issue is one text, made of the name of a rule, the id of an instance or a connection, and what tells
apart the issues that the rule has about it. Ids of instances and connections are arbitrary texts, so that the parts
have to be found again by the names of the rules in front and by the hyphens behind.

* `Label` — the parts; `Finding.id_eq` puts them together;
* `Label.text_inj` — labels of one rule can be read off their texts, whatever the ids in them are;
* `rules_apart` — no rule's name begins with the name of another, but for names and databases;
* `Apart` — findings with labels that differ: one lemma for each group of rules, `apart_checkNaming` to
  `apart_checkCycles`, and `apart_findings` for a report;
* `issue_ids_nodup_iff` — the issues of a report have different ids exactly if no id of an instance with a refused
  name is `db-` and the id of one with a refused database.
-/

namespace HostTopology
namespace Validation

open HostTopology.Cycle Catalog

variable {r : Registry} {t : Topology} {i : ResourceInstance} {c : Connection} {f g : Finding} {v : Report}
  {found : List Finding}

/-! ## Labels -/

/-- What an issue is about: the rule, an instance or a connection, and the place there. -/
structure Label where
  rule : String
  subject : String
  marks : List String
deriving DecidableEq, Repr

namespace Label

def text (l : Label) : String :=
  l.rule ++ (l.subject ++ String.join (l.marks.map ("-" ++ ·)))

theorem text_none (rule subject : String) : (mk rule subject []).text = rule ++ subject := by
  simp [text]

theorem text_one (rule subject mark : String) :
    (mk rule subject [mark]).text = rule ++ subject ++ "-" ++ mark := by
  simp [text, String.append_assoc]

theorem text_two (rule subject mark mark' : String) :
    (mk rule subject [mark, mark']).text = rule ++ subject ++ "-" ++ mark ++ "-" ++ mark' := by
  simp [text, String.append_assoc]

/-- The hyphens before the marks are the last ones. -/
def IsPlain (l : Label) : Prop :=
  ∀ mark ∈ l.marks, '-' ∉ mark.toList

end Label

namespace Finding

/-- What the id names after the rule: an instance or a connection by its id, or a kind of service. -/
def subject : Finding → String
  | missingName node _ | invalidName node _ | invalidDatabase node _ | nameFault node _ _ _
  | duplicateName _ node _ | variableCollision _ node _ _ | unknownType node _
  | argumentFault node _ _ _ _ | noReference node _ _ | noDatabase node _ | notPersistent node _
  | envKey node _ _ | port node _ _ | isolated node _ | unused node _ | secret node _ _ | openAiKey node _
  | fewReplicas node _ _ => node
  | orphan edge | selfConnection edge _ => edge
  | incompatible edge .. => edge.id
  | several .messaging _ => "messaging"
  | several .cache _ => "cache"
  | cycle first _ => first.id

/-- What tells the findings of one rule about one subject apart: positions, parameters and variables. -/
def marks : Finding → List String
  | nameFault _ _ position _ | envKey _ position _ | port _ position _ | secret _ position _ => [toString position]
  | argumentFault _ _ p position _ => [p.name, toString position]
  | variableCollision name _ _ _ => [name]
  | _ => []

def label (f : Finding) : Label :=
  ⟨f.rule, f.subject, f.marks⟩

theorem id_eq (f : Finding) : f.id = f.label.text := by
  cases f with
  | several service members => cases service <;> rfl
  | argumentFault node method p position fault =>
    exact (Label.text_two "api-param-" node p.name (toString position)).symm
  | nameFault | variableCollision | envKey | port | secret => exact (Label.text_one _ _ _).symm
  | _ => exact (Label.text_none _ _).symm

/-- How many marks a rule's findings have. -/
def markCount (rule : String) : Nat :=
  if rule = "api-param-" then 2
  else if rule ∈ ["naming-constraint-", "naming-variable-collision-", "config-env-key-", "config-port-",
    "security-hardcoded-secret-"] then 1
  else 0

theorem length_marks (f : Finding) : f.marks.length = markCount f.rule := by
  cases f <;> rfl

end Finding

/-! ## Labels from texts -/

theorem append_marks_inj {marks marks' : List (List Char)} {subject subject' : List Char}
    (hmarks : ∀ mark ∈ marks, '-' ∉ mark) (hmarks' : ∀ mark ∈ marks', '-' ∉ mark)
    (hlength : marks.length = marks'.length)
    (h : subject ++ marks.flatMap ('-' :: ·) = subject' ++ marks'.flatMap ('-' :: ·)) :
    subject = subject' ∧ marks = marks' := by
  -- marks are taken off at the end, where the last hyphen is the one before the last mark
  induction marks using List.reverseRecOn generalizing marks' with
  | nil =>
    obtain rfl : marks' = [] := List.length_eq_zero_iff.1 hlength.symm
    exact ⟨by simpa using h, rfl⟩
  | append_singleton marks mark ih =>
    rcases List.eq_nil_or_concat marks' with rfl | ⟨init, last, rfl⟩
    · simp at hlength
    simp only [List.concat_eq_append, List.forall_mem_append, List.forall_mem_singleton] at hmarks hmarks' hlength h ⊢
    have hparts : subject ++ marks.flatMap ('-' :: ·) ++ '-' :: mark =
        subject' ++ init.flatMap ('-' :: ·) ++ '-' :: last := by simpa using h
    have hcut := congrArg (Text.cutLast '-') hparts
    rw [Text.cutLast_append_cons _ hmarks.2, Text.cutLast_append_cons _ hmarks'.2, Prod.mk.injEq,
      Option.some.injEq] at hcut
    obtain ⟨hinit, rfl⟩ := hcut
    obtain ⟨hsubject, rfl⟩ := ih hmarks.1 hmarks'.1 (by simpa using hlength) hinit
    exact ⟨hsubject, rfl⟩

namespace Label

theorem toList_text (l : Label) : l.text.toList =
    l.rule.toList ++ (l.subject.toList ++ (l.marks.map String.toList).flatMap ('-' :: ·)) := by
  simp [text, List.flatMap_map]

theorem text_inj {l l' : Label} (hl : l.IsPlain) (hl' : l'.IsPlain) (hrule : l.rule = l'.rule)
    (hlength : l.marks.length = l'.marks.length) (h : l.text = l'.text) : l = l' := by
  have htext := congrArg String.toList h
  rw [toList_text, toList_text, hrule] at htext
  obtain ⟨hsubject, hmarks⟩ := append_marks_inj (List.forall_mem_map.2 hl) (List.forall_mem_map.2 hl')
    (by simpa using hlength) (List.append_cancel_left htext)
  obtain ⟨rule, subject, marks⟩ := l
  obtain ⟨rule', subject', marks'⟩ := l'
  have hmarks' : marks = marks' := List.map_injective_iff.2 (fun _ _ => String.toList_injective) hmarks
  rw [Label.mk.injEq]
  exact ⟨hrule, String.toList_inj.1 hsubject, hmarks'⟩

end Label

/-! ## Rules from texts -/

/-- The names of the rules, in the order in which they report. -/
def rules : List String := [
  "naming-missing-", "naming-invalid-", "naming-invalid-db-", "naming-constraint-", "naming-duplicate-",
  "naming-variable-collision-", "api-unknown-", "api-param-", "api-no-reference-", "connection-orphan-",
  "connection-invalid-", "connection-self-", "config-no-database-", "config-non-persistent-", "config-env-key-",
  "config-port-", "arch-isolated-project-", "arch-unused-resource-", "arch-multiple-",
  "security-hardcoded-secret-", "security-openai-config-", "perf-replicas-", "arch-circular-"]

theorem Finding.rule_mem (f : Finding) : f.rule ∈ rules := by
  cases f <;> simp [rule, rules]

theorem rules_apart : ∀ a ∈ rules, ∀ b ∈ rules, a.toList <+: b.toList →
    a = b ∨ a = "naming-invalid-" ∧ b = "naming-invalid-db-" := by
  decide +kernel

namespace Finding

/-- A refused name and a refused database under one id. -/
structure Clashes (f g : Finding) : Prop where
  name : f.rule = "naming-invalid-"
  database : g.rule = "naming-invalid-db-"
  subject : f.subject = "db-" ++ g.subject

theorem id_eq_of_rule (hrule : markCount f.rule = 0) : f.id = f.rule ++ f.subject := by
  have hmarks : f.marks = [] := List.length_eq_zero_iff.1 (f.length_marks.trans hrule)
  rw [f.id_eq, label, hmarks, Label.text_none]

theorem exists_of_rule_eq_name (h : f.rule = "naming-invalid-") : ∃ node name, f = .invalidName node name := by
  cases f with
  | invalidName node name => exact ⟨node, name, rfl⟩
  | _ => simp [rule] at h

theorem exists_of_rule_eq_database (h : f.rule = "naming-invalid-db-") :
    ∃ node database, f = .invalidDatabase node database := by
  cases f with
  | invalidDatabase node database => exact ⟨node, database, rfl⟩
  | _ => simp [rule] at h

theorem Clashes.id_eq (h : f.Clashes g) : f.id = g.id := by
  have hf : f.id = "naming-invalid-" ++ f.subject := by
    rw [id_eq_of_rule (by rw [h.name]; rfl), h.name]
  have hg : g.id = "naming-invalid-db-" ++ g.subject := by
    rw [id_eq_of_rule (by rw [h.database]; rfl), h.database]
  rw [hf, hg, h.subject, ← String.append_assoc]
  rfl

theorem label_eq_or_clashes (hf : f.label.IsPlain) (hg : g.label.IsPlain) (h : f.id = g.id)
    (hbegins : f.rule.toList <+: g.rule.toList) : f.label = g.label ∨ f.Clashes g := by
  rcases rules_apart _ f.rule_mem _ g.rule_mem hbegins with hrule | ⟨hname, hdatabase⟩
  · have hlength : f.marks.length = g.marks.length := by rw [length_marks, length_marks, hrule]
    exact Or.inl (Label.text_inj hf hg hrule hlength (by rw [← f.id_eq, ← g.id_eq, h]))
  · refine Or.inr ⟨hname, hdatabase, ?_⟩
    -- the name of the one rule goes on where that of the other ends
    have htext : "naming-invalid-" ++ f.subject = "naming-invalid-" ++ ("db-" ++ g.subject) := by
      rw [← hname, ← id_eq_of_rule (by rw [hname]; rfl), h, id_eq_of_rule (by rw [hdatabase]; rfl), hdatabase, hname,
        ← String.append_assoc]
      rfl
    exact (String.append_right_inj _).1 htext

/-- Two findings have one id if they have one label, and else only if one is about a name and the other about a
database. -/
theorem id_eq_iff (hf : f.label.IsPlain) (hg : g.label.IsPlain) :
    f.id = g.id ↔ f.label = g.label ∨ f.Clashes g ∨ g.Clashes f := by
  constructor
  · intro h
    have hrule := f.rule_prefix
    rw [h] at hrule
    -- both rules begin the id, so that one of them begins the other
    rcases List.prefix_or_prefix_of_prefix hrule g.rule_prefix with hbegins | hbegins
    · exact (label_eq_or_clashes hf hg h hbegins).imp_right Or.inl
    · exact (label_eq_or_clashes hg hf h.symm hbegins).imp Eq.symm Or.inr
  · rintro (hlabel | hclash | hclash)
    · rw [f.id_eq, g.id_eq, hlabel]
    · exact hclash.id_eq
    · exact hclash.id_eq.symm

end Finding

/-! ## Findings with labels that differ -/

/-- Findings of given rules about given subjects, no two with one label. -/
structure Apart (rules : List String) (subjects : Set String) (found : List Finding) : Prop where
  rule_mem : ∀ f ∈ found, f.rule ∈ rules
  subject_mem : ∀ f ∈ found, f.subject ∈ subjects
  isPlain : ∀ f ∈ found, f.label.IsPlain
  nodup : (found.map Finding.label).Nodup

section Apart

variable {as bs : List String} {S T : Set String} {α β : Type} {l : List α}

theorem apart_nil : Apart as S [] :=
  ⟨by simp, by simp, by simp, List.nodup_nil⟩

theorem apart_singleton (hrule : f.rule ∈ as) (hsubject : f.subject ∈ S)
    (hmarks : ∀ mark ∈ f.marks, '-' ∉ mark.toList) : Apart as S [f] :=
  ⟨by simpa using hrule, by simpa using hsubject, by simpa [Label.IsPlain, Finding.label] using hmarks, by simp⟩

theorem apart_findWhen {p : Bool} (hrule : f.rule ∈ as) (hsubject : f.subject ∈ S)
    (hmarks : ∀ mark ∈ f.marks, '-' ∉ mark.toList) : Apart as S (findWhen p f) := by
  cases p with
  | false => exact apart_nil
  | true => exact apart_singleton hrule hsubject hmarks

namespace Apart

theorem mono (h : Apart as S found) (hrules : as ⊆ bs) (hsubjects : S ⊆ T) : Apart bs T found :=
  ⟨fun f hf => hrules (h.rule_mem f hf), fun f hf => hsubjects (h.subject_mem f hf), h.isPlain, h.nodup⟩

/-- Findings of different rules have different labels. -/
theorem append {xs ys : List Finding} (hx : Apart as S xs) (hy : Apart bs S ys) (hrules : ∀ a ∈ as, a ∉ bs) :
    Apart (as ++ bs) S (xs ++ ys) where
  rule_mem f hf := (List.mem_append.1 hf).elim (fun hf => List.mem_append_left _ (hx.rule_mem f hf))
    fun hf => List.mem_append_right _ (hy.rule_mem f hf)
  subject_mem f hf := (List.mem_append.1 hf).elim (hx.subject_mem f) (hy.subject_mem f)
  isPlain f hf := (List.mem_append.1 hf).elim (hx.isPlain f) (hy.isPlain f)
  nodup := by
    rw [List.map_append]
    refine hx.nodup.append hy.nodup fun label hf hg => ?_
    obtain ⟨f, hfx, rfl⟩ := List.mem_map.1 hf
    obtain ⟨g, hgy, hlabel⟩ := List.mem_map.1 hg
    have hrule : g.rule = f.rule := congrArg Label.rule hlabel
    exact hrules f.rule (hx.rule_mem f hfx) (hrule ▸ hy.rule_mem g hgy)

/-- What is found for different things is told apart by a part of the label that names the thing. -/
theorem flatMap {check : α → List Finding} (read : Label → Option β) {key : α → β} (hkeys : (l.map key).Nodup)
    (h : ∀ x ∈ l, Apart as S (check x)) (hread : ∀ x ∈ l, ∀ f ∈ check x, read f.label = some (key x)) :
    Apart as S (l.flatMap check) := by
  have hfound : ∀ f ∈ l.flatMap check, ∃ x ∈ l, f ∈ check x := fun f hf => List.mem_flatMap.1 hf
  refine ⟨fun f hf => ?_, fun f hf => ?_, fun f hf => ?_, ?_⟩
  · obtain ⟨x, hx, hf⟩ := hfound f hf
    exact (h x hx).rule_mem f hf
  · obtain ⟨x, hx, hf⟩ := hfound f hf
    exact (h x hx).subject_mem f hf
  · obtain ⟨x, hx, hf⟩ := hfound f hf
    exact (h x hx).isPlain f hf
  · rw [List.map_flatMap, List.nodup_flatMap]
    refine ⟨fun x hx => (h x hx).nodup, ?_⟩
    -- one label for two things would name both of them
    refine (List.pairwise_map.1 hkeys).imp_of_mem fun {x y} hx hy hne label hxlabel hylabel => hne ?_
    obtain ⟨f, hf, rfl⟩ := List.mem_map.1 hxlabel
    obtain ⟨g, hg, hlabel⟩ := List.mem_map.1 hylabel
    have hsame : some (key x) = some (key y) := by rw [← hread x hx f hf, ← hread y hy g hg, hlabel]
    exact Option.some.inj hsame

/-- Findings about different subjects. -/
theorem subjects {check : α → List Finding} {key : α → String} (hkeys : (l.map key).Nodup)
    (h : ∀ x ∈ l, Apart as {key x} (check x)) : Apart as Set.univ (l.flatMap check) :=
  flatMap (fun label => some label.subject) hkeys
    (fun x hx => (h x hx).mono (List.Subset.refl _) (Set.subset_univ _))
    fun x hx f hf => congrArg some ((h x hx).subject_mem f hf)

/-- Findings at different positions, which are their last marks. -/
theorem positions {check : α × Nat → List Finding} (h : ∀ x ∈ l.zipIdx, Apart as S (check x))
    (hlast : ∀ x ∈ l.zipIdx, ∀ f ∈ check x, f.marks.getLast? = some (toString x.2)) :
    Apart as S (l.zipIdx.flatMap check) := by
  have hpositions : (l.zipIdx.map Prod.snd).Nodup := by
    rw [List.zipIdx_map_snd]
    exact List.nodup_range'
  -- positions differ, and so do their numerals
  have hnumerals : (l.zipIdx.map fun x => toString x.2).Nodup := by
    refine List.Nodup.map_on (fun x hx y hy heq => ?_) (List.Nodup.of_map _ hpositions)
    exact List.inj_on_of_nodup_map hpositions hx hy (repr_inj heq)
  exact flatMap (fun label => label.marks.getLast?) hnumerals h hlast

end Apart

theorem forall_mem_toOption {ε : Type} {P : Finding → Prop} {x : Except ε (List Finding)}
    (h : ∀ found, x = .ok found → ∀ f ∈ found, P f) : ∀ f ∈ x.toOption.getD [], P f := by
  cases x with
  | error e => simp [Except.toOption]
  | ok found => exact h found rfl

theorem apart_toOption {ε : Type} {x : Except ε (List Finding)} (h : ∀ found, x = .ok found → Apart as S found) :
    Apart as S (x.toOption.getD []) := by
  cases x with
  | error e => exact apart_nil
  | ok found => exact h found rfl

end Apart

/-! ## Rules, group by group -/

theorem hyphen_not_mem (n : Nat) : ∀ mark ∈ [toString n], '-' ∉ mark.toList :=
  List.forall_mem_singleton.2 (not_mem_repr (by decide) n)

/-- Findings of one kind in a list, each with its position as its mark. -/
theorem apart_positions {as : List String} {S : Set String} {α : Type} {l : List α} {p : α × Nat → Bool}
    (find : α × Nat → Finding) (hrule : ∀ x, (find x).rule ∈ as) (hsubject : ∀ x, (find x).subject ∈ S)
    (hmarks : ∀ x, (find x).marks = [toString x.2]) :
    Apart as S (l.zipIdx.flatMap fun x => findWhen (p x) (find x)) := by
  refine Apart.positions (fun x _ => ?_) fun x _ f hf => ?_
  · exact apart_findWhen (hrule x) (hsubject x) (hmarks x ▸ hyphen_not_mem x.2)
  · rw [(mem_findWhen.1 hf).2, hmarks]
    rfl

/-- Two rules that look at one thing, and tell no places there apart. -/
theorem apart_pair {a b : String} {S : Set String} {p q : Bool} (hrules : a ≠ b)
    (hf : f.rule = a ∧ f.subject ∈ S ∧ f.marks = []) (hg : g.rule = b ∧ g.subject ∈ S ∧ g.marks = []) :
    Apart [a, b] S (findWhen p f ++ findWhen q g) := by
  obtain ⟨rfl, hfsubject, hfmarks⟩ := hf
  obtain ⟨rfl, hgsubject, hgmarks⟩ := hg
  have hfirst : Apart [f.rule] S (findWhen p f) :=
    apart_findWhen List.mem_cons_self hfsubject (hfmarks ▸ List.forall_mem_nil _)
  have hsecond : Apart [g.rule] S (findWhen q g) :=
    apart_findWhen List.mem_cons_self hgsubject (hgmarks ▸ List.forall_mem_nil _)
  exact hfirst.append hsecond (by simpa using hrules)

/-! ### Naming -/

theorem apart_checkName : Apart ["naming-missing-", "naming-invalid-"] {i.id} (checkName r i) := by
  rw [checkName]
  split
  · exact apart_singleton List.mem_cons_self rfl (List.forall_mem_nil _)
  · exact apart_findWhen (List.mem_cons_of_mem _ List.mem_cons_self) rfl (List.forall_mem_nil _)

theorem apart_checkDatabaseName : Apart ["naming-invalid-db-"] {i.id} (checkDatabaseName r i) := by
  rw [checkDatabaseName]
  split
  · exact apart_findWhen List.mem_cons_self rfl (List.forall_mem_nil _)
  · exact apart_nil

theorem apart_checkNameParameter : Apart ["naming-constraint-"] {i.id} (checkNameParameter r i) := by
  rw [checkNameParameter]
  split
  · exact apart_nil
  · split
    · exact apart_nil
    · split
      · exact apart_nil
      · rw [List.map_eq_flatMap]
        refine Apart.positions (fun x _ => apart_singleton List.mem_cons_self rfl (hyphen_not_mem x.2)) ?_
        rintro x - f hf
        obtain rfl := List.mem_singleton.1 hf
        rfl

/-- Groups have different keys. -/
theorem nodup_groupBy {α β : Type} [BEq β] [LawfulBEq β] {key : α → β} {members : List α} :
    ((groupBy key members).map Prod.fst).Nodup := by
  have hkeys : (groupBy key members).map Prod.fst = (members.map key).eraseDups := by
    rw [groupBy, List.map_map]
    exact List.map_id _
  rw [hkeys]
  exact List.nodup_eraseDups _

/-- Instances with one name are reported under the first of them, which tells the name. -/
theorem apart_checkDuplicates (hd : t.DistinctIds) : Apart ["naming-duplicate-"] Set.univ (checkDuplicates t) := by
  rw [checkDuplicates, List.filterMap_eq_flatMap_toList]
  refine Apart.flatMap (fun label => (t.find? label.subject).map ResourceInstance.name)
    nodup_groupBy ?_ ?_
  · rintro ⟨name, members⟩ -
    split
    · exact apart_singleton List.mem_cons_self (Set.mem_univ _) (List.forall_mem_nil _)
    · exact apart_nil
  · rintro ⟨name, members⟩ hgroup f hf
    obtain ⟨-, hmembers⟩ := mem_groupBy.1 hgroup
    -- every member of the group has its name, the first one too
    split at hf
    · rename_i first second others heq
      obtain rfl := Option.some.inj (Option.mem_toList.1 hf)
      obtain ⟨rfl, rfl⟩ := Prod.mk.inj heq
      obtain ⟨hnamed, hname⟩ := List.mem_filter.1 (hmembers ▸ List.mem_cons_self : first ∈ _)
      have hfind : t.find? first.id = some first :=
        (Topology.find?_eq_some_iff hd).2 ⟨(List.mem_filter.1 hnamed).1, rfl⟩
      calc (t.find? first.id).map ResourceInstance.name = some first.name := by rw [hfind, Option.map_some]
        _ = some name := by rw [eq_of_beq hname]
    · cases hf

theorem hyphen_not_mem_name {d : Declared} (hd : d ∈ declaredFor r i) : '-' ∉ d.name.toList := by
  have hvariable : ∀ name, '-' ∉ (Naming.variableName name).toList := fun name hmem =>
    absurd ((Naming.isVariable_variableName name).isAlphanum _ hmem) (by decide)
  rcases (mem_declaredFor_iff.1 hd).2 with rfl | ⟨database, -, rfl⟩
  · exact hvariable i.name
  · exact hvariable database

theorem apart_checkVariables : Apart ["naming-variable-collision-"] Set.univ (checkVariables r t) := by
  refine Apart.flatMap (fun label => label.marks.head?) nodup_groupBy ?_ ?_
  -- the variable is the mark, and the first instance that declares it is the subject
  · rintro ⟨name, entries⟩ hgroup
    obtain ⟨hname, -⟩ := mem_groupBy.1 hgroup
    obtain ⟨d, hd, rfl⟩ := List.mem_map.1 hname
    obtain ⟨i, -, hd⟩ := List.mem_flatMap.1 hd
    cases entries with
    | nil => exact apart_nil
    | cons first rest =>
      exact apart_findWhen List.mem_cons_self (Set.mem_univ _) (List.forall_mem_singleton.2 (hyphen_not_mem_name hd))
  · rintro ⟨name, entries⟩ - f hf
    cases entries with
    | nil => cases hf
    | cons first rest =>
      obtain ⟨-, rfl⟩ := mem_findWhen.1 hf
      rfl

theorem apart_checkNaming (hd : t.DistinctIds) : Apart (rules.take 6) Set.univ (checkNaming r t) := by
  have hnames : Apart (rules.take 4) Set.univ
      (t.instances.flatMap fun i => checkName r i ++ checkDatabaseName r i ++ checkNameParameter r i) :=
    Apart.subjects hd fun i _ =>
      (apart_checkName.append apart_checkDatabaseName (by decide)).append apart_checkNameParameter (by decide)
  exact (hnames.append (apart_checkDuplicates hd) (by decide)).append apart_checkVariables (by decide)

/-! ### Methods -/

theorem apart_checkArgument {method : String} {p : Parameter} (hname : '-' ∉ p.name.toList)
    (h : checkArgument i method p = .ok found) : Apart ["api-param-"] {i.id} found := by
  obtain ⟨value, -, hfound⟩ := Except.bind_eq_ok_iff.1 h
  obtain rfl := Except.ok.inj hfound
  rw [List.map_eq_flatMap]
  refine Apart.positions (fun x _ => apart_singleton List.mem_cons_self rfl ?_) ?_
  · exact List.forall_mem_cons.2 ⟨hname, hyphen_not_mem x.2⟩
  · rintro x - f hf
    obtain rfl := List.mem_singleton.1 hf
    rfl

theorem head?_marks_of_mem_checkArgument {method : String} {p : Parameter} (h : checkArgument i method p = .ok found)
    (hf : f ∈ found) : f.marks.head? = some p.name := by
  obtain ⟨_, _, _, -, -, rfl⟩ := (mem_checkArgument_iff h).1 hf
  rfl

/-- The parameters of a method of the catalog have different names, which are single words. -/
theorem nodup_parameters {type : ResourceType} (htype : type ∈ resourceTypes) :
    (type.builder.parameters.map Parameter.name).Nodup ∧ ∀ p ∈ type.builder.parameters, '-' ∉ p.name.toList := by
  have hall : ∀ type ∈ resourceTypes,
      (type.builder.parameters.map Parameter.name).Nodup ∧ ∀ p ∈ type.builder.parameters, '-' ∉ p.name.toList := by
    decide
  exact hall type htype

theorem apart_checkMethods (htypes : ∀ type ∈ r.types, type ∈ resourceTypes) (h : checkMethods r t i = .ok found) :
    Apart ["api-unknown-", "api-param-", "api-no-reference-"] {i.id} found := by
  rcases checkMethods_cases h with ⟨-, rfl⟩ | ⟨type, parts, htype, hparts, rfl⟩
  · exact apart_singleton List.mem_cons_self rfl (List.forall_mem_nil _)
  · obtain ⟨hnodup, hnames⟩ := nodup_parameters (htypes type (Registry.mem_types htype).1)
    -- the name of the parameter is the first mark, and the position of the fault is the last
    have harguments : Apart ["api-param-"] {i.id} parts.flatten := by
      rw [Except.flatten_of_mapM hparts]
      refine Apart.flatMap (fun label => label.marks.head?) hnodup ?_ ?_
      · exact fun p hp => apart_toOption fun found hfound => apart_checkArgument (hnames p hp) hfound
      · exact fun p _ => forall_mem_toOption fun found hfound f hf => head?_marks_of_mem_checkArgument hfound hf
    have hreference : Apart ["api-no-reference-"] {i.id} (checkReference r t i) :=
      apart_findWhen List.mem_cons_self rfl (List.forall_mem_nil _)
    exact (harguments.append hreference (by decide)).mono (List.subset_cons_self _ _) (Set.Subset.refl _)

/-! ### Connections and configuration -/

theorem apart_checkConnection :
    Apart ["connection-invalid-", "connection-self-", "connection-orphan-"] {c.id} (checkConnection r t c) := by
  rw [checkConnection]
  split
  · refine Apart.mono (?_ : Apart ["connection-invalid-", "connection-self-"] {c.id} _) (by decide) (Set.Subset.refl _)
    exact apart_pair (by decide) ⟨rfl, rfl, rfl⟩ ⟨rfl, rfl, rfl⟩
  · exact apart_singleton (by decide : "connection-orphan-" ∈ _) rfl (List.forall_mem_nil _)

theorem apart_checkPort {node : String} {n : Nat} {q : PortMapping} (h : checkPort node n q = .ok found) :
    Apart ["config-port-"] {node} found ∧ ∀ f ∈ found, f.marks.getLast? = some (toString n) := by
  rw [checkPort] at h
  split at h
  · obtain rfl := Except.ok.inj h
    exact ⟨apart_nil, List.forall_mem_nil _⟩
  · obtain ⟨valid, -, hfound⟩ := Except.bind_eq_ok_iff.1 h
    obtain rfl := Except.ok.inj hfound
    refine ⟨apart_findWhen List.mem_cons_self rfl (hyphen_not_mem n), fun f hf => ?_⟩
    obtain ⟨-, rfl⟩ := mem_findWhen.1 hf
    rfl

theorem apart_checkStorage : Apart ["config-no-database-", "config-non-persistent-"] {i.id} (checkStorage r i) :=
  apart_pair (by decide) ⟨rfl, rfl, rfl⟩ ⟨rfl, rfl, rfl⟩

theorem apart_checkConfiguration (h : checkConfiguration r i = .ok found) :
    Apart ["config-no-database-", "config-non-persistent-", "config-env-key-", "config-port-"] {i.id} found := by
  rcases checkConfiguration_cases h with ⟨-, rfl⟩ | ⟨_, ports, -, hports, rfl⟩
  · exact apart_nil
  · have hkeys : Apart ["config-env-key-"] {i.id}
        (i.config.envVars.zipIdx.flatMap fun x => checkEnvKey i.id x.2 x.1) :=
      apart_positions (fun x : EnvVar × Nat => .envKey i.id x.2 x.1.key) (fun _ => List.mem_cons_self)
        (fun _ => rfl) fun _ => rfl
    -- a port with a number that cannot be read would have ended the check
    have hnumbers : Apart ["config-port-"] {i.id} ports.flatten := by
      rw [Except.flatten_of_mapM hports]
      exact Apart.positions (fun x _ => apart_toOption fun found hfound => (apart_checkPort hfound).1)
        fun x _ => forall_mem_toOption fun found hfound => (apart_checkPort hfound).2
    exact (apart_checkStorage.append hkeys (by decide)).append hnumbers (by decide)

/-! ### Architecture -/

theorem apart_checkUse : Apart ["arch-isolated-project-", "arch-unused-resource-"] {i.id} (checkUse r t i) :=
  apart_pair (by decide) ⟨rfl, rfl, rfl⟩ ⟨rfl, rfl, rfl⟩

theorem apart_checkArchitecture (hd : t.DistinctIds) :
    Apart ["arch-isolated-project-", "arch-unused-resource-", "arch-multiple-"] Set.univ (checkArchitecture r t) := by
  have hshared : Apart ["arch-multiple-"] Set.univ ([Shared.messaging, Shared.cache].flatMap (checkShared r t)) := by
    have hnames : ([Shared.messaging, Shared.cache].map fun service => (Finding.several service []).subject).Nodup := by
      decide
    -- the two kinds of services take the place of ids
    refine Apart.flatMap (fun label => some label.subject) hnames ?_ ?_
    · exact fun service _ => apart_findWhen List.mem_cons_self (Set.mem_univ _) (List.forall_mem_nil _)
    · intro service _ f hf
      rw [(mem_findWhen.1 hf).2]
      cases service <;> rfl
  have hparts : checkArchitecture r t =
      t.instances.flatMap (checkUse r t) ++ [Shared.messaging, Shared.cache].flatMap (checkShared r t) := by
    simp [checkArchitecture]
  rw [hparts]
  exact (Apart.subjects hd fun i _ => apart_checkUse).append hshared (by decide)

/-! ### Security and performance -/

theorem apart_checkSecurity :
    Apart ["security-hardcoded-secret-", "security-openai-config-"] {i.id} (checkSecurity i) := by
  have hsecrets : Apart ["security-hardcoded-secret-"] {i.id}
      (i.config.envVars.zipIdx.flatMap fun x => checkSecret i.id x.2 x.1) :=
    apart_positions (fun x : EnvVar × Nat => .secret i.id x.2 x.1.key) (fun _ => List.mem_cons_self)
      (fun _ => rfl) fun _ => rfl
  have hopenai : Apart ["security-openai-config-"] {i.id} (checkOpenAi i) :=
    apart_findWhen List.mem_cons_self rfl (List.forall_mem_nil _)
  exact hsecrets.append hopenai (by decide)

theorem apart_checkPerformance : Apart ["perf-replicas-"] {i.id} (checkPerformance r t i) :=
  apart_findWhen List.mem_cons_self rfl (List.forall_mem_nil _)

/-! ### Cycles -/

/-- No instance is on two cycles, so that no two cycles begin with the same one. -/
theorem nodup_head?_cycles (t : Topology) : (t.cycles.map List.head?).Nodup := by
  obtain ⟨-, hdisjoint⟩ := List.nodup_flatten.1 (List.nodup_append.1 (Topology.nodup_cycles_append_approaches t)).1
  rw [List.Nodup, List.pairwise_map]
  -- a first instance in common would be on both cycles
  refine hdisjoint.imp_of_mem fun {a b} ha hb hab hheads => ?_
  obtain ⟨id, rest, rfl⟩ := List.exists_cons_of_ne_nil (Topology.isCycle_of_mem_cycles ha).ne_nil
  exact hab List.mem_cons_self (List.mem_of_head? hheads.symm)

theorem apart_checkCycles : Apart ["arch-circular-"] Set.univ (checkCycles r t) where
  rule_mem f hf := by
    obtain ⟨first, rest, rfl, -⟩ := exists_of_mem_checkCycles hf
    exact List.mem_cons_self
  subject_mem f _ := Set.mem_univ _
  isPlain f hf := by
    obtain ⟨first, rest, rfl, -⟩ := exists_of_mem_checkCycles hf
    exact List.forall_mem_nil _
  nodup := by
    -- a cycle is labelled by the instance that it begins with
    have hheads : ((checkCycles r t).map Finding.label).map (fun label => some label.subject) =
        t.cycles.map List.head? := by
      rw [← map_related_checkCycles (r := r), List.map_map, List.map_map]
      refine List.map_congr_left fun f hf => ?_
      obtain ⟨first, rest, rfl, -⟩ := exists_of_mem_checkCycles hf
      rfl
    exact List.Nodup.of_map _ (hheads ▸ nodup_head?_cycles t)

/-! ## Reports -/

/-- A report tells its findings apart by their labels. -/
theorem apart_findings (htypes : ∀ type ∈ r.types, type ∈ resourceTypes) (hd : t.DistinctIds)
    (hc : (t.connections.map Connection.id).Nodup) (hv : t.validate r = .ok v) : Apart rules Set.univ v.findings := by
  obtain ⟨methods, hmethods, hv⟩ := Except.bind_eq_ok_iff.1 hv
  obtain ⟨configuration, hconfiguration, hv⟩ := Except.bind_eq_ok_iff.1 hv
  obtain rfl := Except.ok.inj hv
  have hm : Apart ["api-unknown-", "api-param-", "api-no-reference-"] Set.univ methods.flatten := by
    rw [Except.flatten_of_mapM hmethods]
    exact Apart.subjects hd fun i _ => apart_toOption fun found hfound => apart_checkMethods htypes hfound
  have hconfig : Apart ["config-no-database-", "config-non-persistent-", "config-env-key-", "config-port-"] Set.univ
      configuration.flatten := by
    rw [Except.flatten_of_mapM hconfiguration]
    exact Apart.subjects hd fun i _ => apart_toOption fun found hfound => apart_checkConfiguration hfound
  -- the groups, in the order in which they report
  have hnaming := apart_checkNaming (r := r) hd
  have hconnections := (hnaming.append hm (by decide)).append
    (Apart.subjects hc fun c _ => apart_checkConnection (r := r) (t := t)) (by decide)
  have harchitecture := (hconnections.append hconfig (by decide)).append
    (apart_checkArchitecture (r := r) hd) (by decide)
  have hinstances := (harchitecture.append (Apart.subjects hd fun i _ => apart_checkSecurity) (by decide)).append
    (Apart.subjects hd fun i _ => apart_checkPerformance (r := r) (t := t)) (by decide)
  exact (hinstances.append (apart_checkCycles (r := r) (t := t)) (by decide)).mono (by decide) (Set.Subset.refl _)

theorem map_id_issues (v : Report) : v.issues.map Issue.id = v.findings.map Finding.id := by
  rw [Report.issues, List.map_map]
  rfl

/-- The name of the instance is there, but it is refused. -/
def HasRefusedName (i : ResourceInstance) : Prop :=
  isBlankText i.name = false ∧ isIdentifier i.name = false

/-- A database is declared on the instance, and its name is refused. -/
def HasRefusedDatabase (r : Registry) (i : ResourceInstance) : Prop :=
  ∃ database, r.databaseOf? i = some database ∧ isIdentifier database = false

/-- A report with findings that clash, from the instances that they are about. -/
theorem exists_clashes_iff (hv : t.validate r = .ok v) : (∃ f ∈ v.findings, ∃ g ∈ v.findings, f.Clashes g) ↔
    ∃ i ∈ t.instances, ∃ j ∈ t.instances, j.id = "db-" ++ i.id ∧ HasRefusedDatabase r i ∧ HasRefusedName j := by
  constructor
  · rintro ⟨f, hf, g, hg, hname, hdatabase, hsubject⟩
    obtain ⟨node, name, rfl⟩ := Finding.exists_of_rule_eq_name hname
    obtain ⟨node', database, rfl⟩ := Finding.exists_of_rule_eq_database hdatabase
    obtain ⟨j, hj, rfl, rfl, hrefused⟩ := (invalidName_mem_findings_iff hv).1 hf
    obtain ⟨i, hi, rfl, hrefused'⟩ := (invalidDatabase_mem_findings_iff hv).1 hg
    exact ⟨i, hi, j, hj, hsubject, ⟨database, hrefused'⟩, hrefused⟩
  · rintro ⟨i, hi, j, hj, hid, ⟨database, hrefused'⟩, hrefused⟩
    exact ⟨.invalidName j.id j.name, (invalidName_mem_findings_iff hv).2 ⟨j, hj, rfl, rfl, hrefused⟩,
      .invalidDatabase i.id database, (invalidDatabase_mem_findings_iff hv).2 ⟨i, hi, rfl, hrefused'⟩, rfl, rfl, hid⟩

theorem Finding.Clashes.not_nodup (h : f.Clashes g) (hf : f ∈ v.findings) (hg : g ∈ v.findings) :
    ¬ (v.issues.map Issue.id).Nodup := by
  intro hnodup
  rw [map_id_issues] at hnodup
  have heq := List.inj_on_of_nodup_map hnodup hf hg h.id_eq
  -- findings with one id would be one finding, and of one rule
  have hrule : "naming-invalid-" = "naming-invalid-db-" := by rw [← h.name, heq, h.database]
  exact absurd hrule (by decide)

/-- The ids of the issues in a report are different, unless an instance with a refused name has the id of one with a
refused database, with `db-` before it. -/
theorem issue_ids_nodup_iff (htypes : ∀ type ∈ r.types, type ∈ resourceTypes) (hd : t.DistinctIds)
    (hc : (t.connections.map Connection.id).Nodup) (hv : t.validate r = .ok v) :
    (v.issues.map Issue.id).Nodup ↔ ¬ ∃ i ∈ t.instances, ∃ j ∈ t.instances,
      j.id = "db-" ++ i.id ∧ HasRefusedDatabase r i ∧ HasRefusedName j := by
  have hapart := apart_findings htypes hd hc hv
  rw [← exists_clashes_iff hv]
  constructor
  · rintro hnodup ⟨f, hf, g, hg, hclash⟩
    exact hclash.not_nodup hf hg hnodup
  · intro hnone
    rw [map_id_issues]
    -- one id for two findings is one label for them, or a clash
    refine (List.Nodup.of_map _ hapart.nodup).map_on fun f hf g hg hid => ?_
    rcases (Finding.id_eq_iff (hapart.isPlain f hf) (hapart.isPlain g hg)).1 hid with hlabel | hclash | hclash
    · exact List.inj_on_of_nodup_map hapart.nodup hf hg hlabel
    · exact absurd ⟨f, hf, g, hg, hclash⟩ hnone
    · exact absurd ⟨g, hg, f, hf, hclash⟩ hnone

end Validation

open Validation

/-- A server and a cache, both with names that are refused; the server's database is refused too. Their ids are
alike, and their connections hold nothing. -/
def refused : Topology where
  instances := [⟨"x", "postgres", "1", some "2", ⟨[⟨"key", "k"⟩, ⟨"token", "t"⟩], [], [], none, none⟩⟩,
    ⟨"x-1", "redis", "3", none, ⟨[⟨"key", "k"⟩], [], [], none, none⟩⟩]
  connections := [.make "" "x" "y" .reference, .make "" "x-1" "x-1" .waitFor]

theorem refused_ids_nodup : ∃ v, refused.validate .standard = .ok v ∧
    .invalidName "x" "1" ∈ v.findings ∧ .invalidDatabase "x" "2" ∈ v.findings ∧ (v.issues.map Issue.id).Nodup := by
  obtain ⟨v, hv⟩ := exists_validate .standard (t := refused) (by
    unfold Topology.HasReadablePorts IsReadablePort
    decide)
  have hname : .invalidName "x" "1" ∈ v.findings :=
    (invalidName_mem_findings_iff hv).2 ⟨_, List.mem_cons_self, rfl, rfl, by decide, by decide⟩
  have hdatabase : .invalidDatabase "x" "2" ∈ v.findings :=
    (invalidDatabase_mem_findings_iff hv).2 ⟨_, List.mem_cons_self, rfl, by decide, by decide⟩
  refine ⟨v, hv, hname, hdatabase, (issue_ids_nodup_iff (fun _ htype => htype) (by decide) (by decide) hv).2 ?_⟩
  rintro ⟨i, hi, j, hj, hid, -⟩
  have hids : ∀ i ∈ refused.instances, ∀ j ∈ refused.instances, j.id ≠ "db-" ++ i.id := by decide
  exact hids i hi j hj hid

/-- A server with a refused database, and a cache with a refused name and the server's id with `db-` before it. -/
def mistaken : Topology where
  instances := [⟨"x", "postgres", "pg", some "1", .empty⟩, ⟨"db-x", "redis", "2", none, .empty⟩]
  connections := []

theorem mistaken_ids_not_nodup : ∃ v, mistaken.validate .standard = .ok v ∧ mistaken.DistinctIds ∧
    (mistaken.connections.map Connection.id).Nodup ∧ ¬ (v.issues.map Issue.id).Nodup := by
  obtain ⟨v, hv⟩ := exists_validate .standard (t := mistaken) (by
    unfold Topology.HasReadablePorts IsReadablePort
    decide)
  obtain ⟨f, hf, g, hg, hclash⟩ := (exists_clashes_iff hv).2 ⟨_, List.mem_cons_self, _,
    List.mem_cons_of_mem _ List.mem_cons_self, by decide, ⟨"1", by decide, by decide⟩, by decide, by decide⟩
  exact ⟨v, hv, by decide, by decide, hclash.not_nodup hf hg⟩

end HostTopology
