import HostTopology.Document.Reader
import HostTopology.Proofs.Results

/-!
# Spelling — numbers that are wanted as text

A check of loosely typed data finds violations and goes on. Only one thing breaks it off: a number with
too many digits in a place where a text is wanted.

* `Checked.IsDone` — the check was not broken off;
* `Wants` — where a reader wants texts, as the values in those places: the check is done exactly if all
  of them are writable;
* `Document.wants_document` — the places of a topology document;
* `Value.exists_display_iff` — the numbers that are written where a value is cited as a whole.
-/

namespace HostTopology

theorem Text.exists_writeNumeral_eq_ok_iff {n : Int} : (∃ s, writeNumeral n = .ok s) ↔ n.natAbs < numeralBound := by
  rw [writeNumeral]
  by_cases h : n.natAbs < numeralBound <;> simp [h]

/-! ## Values that are cited -/

namespace Value

mutual

/-- The numbers that are written where a value is cited inside the loops with the given labels. -/
def numbersIn (around : List Nat) : Value → List Int
  | int n => [n]
  | list items => numbersAll around items
  | pair first second => numbersIn around first ++ numbersIn around second
  | set items => numbersAll around items
  | mapping entries => numbersEntries around entries
  | loop label body => if label ∈ around then [] else numbersIn (label :: around) body
  | _ => []

def numbersAll (around : List Nat) : List Value → List Int
  | [] => []
  | v :: vs => numbersIn around v ++ numbersAll around vs

def numbersEntries (around : List Nat) : List (Value × Value) → List Int
  | [] => []
  | (k, v) :: es => numbersIn around k ++ numbersIn around v ++ numbersEntries around es

end

mutual

/-- A value can be cited exactly if every number in it can be written. -/
theorem exists_citeIn_iff (around : List Nat) : ∀ v : Value,
    (∃ s, citeIn around v = .ok s) ↔ ∀ n ∈ numbersIn around v, n.natAbs < Text.numeralBound
  | null | bool _ | float _ | text _ | halves _ | bytes _ | date _ | moment _ | enclosing _ _ => by
    simp [citeIn, numbersIn]
  | int n => by simp [citeIn, numbersIn, Text.exists_writeNumeral_eq_ok_iff]
  | list items => by
    have hitems := exists_citeAll_iff around items
    simp only [citeIn, numbersIn, ← hitems, Except.bind_eq_ok_iff]
    exact ⟨fun ⟨_, texts, htexts, _⟩ => ⟨texts, htexts⟩, fun ⟨texts, htexts⟩ => ⟨_, texts, htexts, rfl⟩⟩
  | pair first second => by
    have hfirst := exists_citeIn_iff around first
    have hsecond := exists_citeIn_iff around second
    simp only [citeIn, numbersIn, List.forall_mem_append, ← hfirst, ← hsecond, Except.bind_eq_ok_iff]
    exact ⟨fun ⟨_, a, ha, b, hb, _⟩ => ⟨⟨a, ha⟩, b, hb⟩, fun ⟨⟨a, ha⟩, b, hb⟩ => ⟨_, a, ha, b, hb, rfl⟩⟩
  | set items => by
    have hitems := exists_citeAll_iff around items
    simp only [citeIn, numbersIn, ← hitems, Except.bind_eq_ok_iff]
    exact ⟨fun ⟨_, texts, htexts, _⟩ => ⟨texts, htexts⟩, fun ⟨texts, htexts⟩ => ⟨_, texts, htexts, rfl⟩⟩
  | mapping entries => by
    have hentries := exists_citeEntries_iff around entries
    simp only [citeIn, numbersIn, ← hentries, Except.bind_eq_ok_iff]
    exact ⟨fun ⟨_, texts, htexts, _⟩ => ⟨texts, htexts⟩, fun ⟨texts, htexts⟩ => ⟨_, texts, htexts, rfl⟩⟩
  | loop label body => by
    -- inside a loop with the same label an ellipsis stands for the value
    have hbody := exists_citeIn_iff (label :: around) body
    by_cases h : label ∈ around
    · simp [citeIn, numbersIn, h]
    · simpa [citeIn, numbersIn, h] using hbody

theorem exists_citeAll_iff (around : List Nat) : ∀ vs : List Value,
    (∃ texts, citeAll around vs = .ok texts) ↔ ∀ n ∈ numbersAll around vs, n.natAbs < Text.numeralBound
  | [] => by simp [citeAll, numbersAll]
  | v :: vs => by
    have hv := exists_citeIn_iff around v
    have hvs := exists_citeAll_iff around vs
    simp only [citeAll, numbersAll, List.forall_mem_append, ← hv, ← hvs, Except.bind_eq_ok_iff]
    exact ⟨fun ⟨_, a, ha, b, hb, _⟩ => ⟨⟨a, ha⟩, b, hb⟩, fun ⟨⟨a, ha⟩, b, hb⟩ => ⟨_, a, ha, b, hb, rfl⟩⟩

theorem exists_citeEntries_iff (around : List Nat) : ∀ es : List (Value × Value),
    (∃ texts, citeEntries around es = .ok texts) ↔ ∀ n ∈ numbersEntries around es, n.natAbs < Text.numeralBound
  | [] => by simp [citeEntries, numbersEntries]
  | (k, v) :: es => by
    have hk := exists_citeIn_iff around k
    have hv := exists_citeIn_iff around v
    have hes := exists_citeEntries_iff around es
    simp only [citeEntries, numbersEntries, List.forall_mem_append, ← hk, ← hv, ← hes, Except.bind_eq_ok_iff]
    exact ⟨fun ⟨_, a, ha, b, hb, c, hc, _⟩ => ⟨⟨⟨a, ha⟩, b, hb⟩, c, hc⟩,
      fun ⟨⟨⟨a, ha⟩, b, hb⟩, c, hc⟩ => ⟨_, a, ha, b, hb, c, hc, rfl⟩⟩

end

theorem exists_display_iff (v : Value) :
    (∃ s, v.display = .ok s) ↔ ∀ n ∈ v.numbersIn [], n.natAbs < Text.numeralBound := by
  have hcite := exists_citeIn_iff [] v
  cases v with
  | text _ | halves _ | date _ | moment _ => simp [display, numbersIn]
  | _ => exact hcite

/-- A number has to be short enough where a text is wanted. -/
def IsWritable : Value → Prop
  | int n => n.natAbs < Text.numeralBound
  | _ => True

end Value

namespace Shape

variable {α β : Type}

/-! ## Checks that are not broken off -/

namespace Checked

def IsDone : Checked α → Prop
  | broken _ => False
  | _ => True

variable {a : Checked α}

@[simp] theorem isDone_ok (x : α) : (ok x).IsDone := trivial

@[simp] theorem isDone_bad (violations : List Violation) : (bad violations : Checked α).IsDone := trivial

@[simp] theorem isDone_fail (problem : Problem) : (fail problem : Checked α).IsDone := trivial

@[simp] theorem not_isDone_broken (e : Text.NumeralError) : ¬ (broken e : Checked α).IsDone := id

@[simp] theorem isDone_map {f : α → β} : (f <$> a).IsDone ↔ a.IsDone := by
  cases a <;> simp

/-- Violations on one side do not hide that the other is broken off. -/
@[simp] theorem isDone_seq {f : Checked (α → β)} : (f <*> a).IsDone ↔ f.IsDone ∧ a.IsDone := by
  change (seqRight f fun _ => a).IsDone ↔ _
  cases f <;> cases a <;> simp [seqRight]

@[simp] theorem isDone_under {step : Step} : (a.under step).IsDone ↔ a.IsDone := by
  cases a <;> simp [under]

@[simp] theorem isDone_also {more : List Violation} : (a.also more).IsDone ↔ a.IsDone := by
  cases a <;> cases more <;> simp [also]

theorem isDone_ofExcept {x : Except Text.NumeralError α} : (ofExcept x).IsDone ↔ ∃ b, x = .ok b := by
  cases x <;> simp [ofExcept]

end Checked

/-! ## Places where texts are wanted -/

/-- The values that a reader wants to be texts. -/
def Wants (read : Reader α) (texts : Value → List Value) : Prop :=
  ∀ v, (read v).IsDone ↔ ∀ w ∈ texts v, w.IsWritable

/-- The same for a reader of fields. -/
def WantsIn (read : Fields → Checked α) (texts : Fields → List Value) : Prop :=
  ∀ fields, (read fields).IsDone ↔ ∀ w ∈ texts fields, w.IsWritable

def field (name : String) (fields : Fields) : List Value :=
  (Value.lookupEntry name fields).toList

def fieldsOf (v : Value) : Fields :=
  v.entries?.getD []

/-- The members of a value that counts as a list. -/
def members (v : Value) : List Value :=
  match v.opened with
  | .list vs => vs
  | .set vs => vs
  | .pair a b => [a, b]
  | _ => []

variable {read : Reader α} {texts : Value → List Value}

theorem isDone_points {v : Value} : (points true v).IsDone ↔ v.IsWritable := by
  cases v with
  | int n => simp [points, Checked.map, Checked.isDone_ofExcept, Text.exists_writeNumeral_eq_ok_iff, Value.IsWritable]
  | bytes octets =>
    rw [points]
    cases textOfBytes? octets <;> simp [Value.IsWritable]
  | _ => simp [points, Value.IsWritable]

theorem wants_text : Wants (text true) fun v => [v] := by
  intro v
  simp [text, Checked.map, isDone_points]

/-! ### Other scalars -/

theorem wants_fromText {problem : Problem} {ofText : String → Checked α} {other : Reader α}
    (htext : ∀ s, (ofText s).IsDone) (hother : ∀ v, (other v).IsDone) :
    Wants (fromText problem ofText other) fun _ => [] := by
  intro v
  cases v with
  | text s => simp [fromText, htext]
  | halves codes => simp [fromText]
  | bytes octets =>
    rw [fromText]
    cases textOfBytes? octets <;> simp [htext]
  | _ => simp [fromText, hother]

theorem wants_int : Wants int fun _ => [] := by
  refine wants_fromText ?_ ?_
  · intro s
    rw [intOfText]
    split
    · simp
    · simp
    · split <;> simp
  · intro v
    split
    · simp
    · simp
    · rw [intOfFloat]
      split
      · simp
      · split
        · simp
        · split <;> simp
    · simp

theorem isDone_boolOfInt (n : Int) : (boolOfInt n).IsDone := by
  rw [boolOfInt]
  by_cases hzero : n = 0
  · simp [hzero]
  · by_cases hone : n = 1 <;> simp [hzero, hone]

theorem wants_bool : Wants bool fun _ => [] := by
  refine wants_fromText ?_ ?_
  · intro s
    simp only [boolOfText]
    split
    · simp
    · split <;> simp
  · intro v
    split
    · simp
    · split
      · exact isDone_boolOfInt _
      · simp
    · split
      · exact isDone_boolOfInt _
      · simp
    · simp

theorem wants_choice (ofName? : String → Option α) : Wants (choice ofName?) fun _ => [] := by
  refine wants_fromText ?_ ?_
  · intro s
    cases ofName? s <;> simp
  · intro v
    simp

/-- Null is a text that is not there. -/
theorem Wants.optional (h : Wants read texts) (hnull : ∀ w ∈ texts .null, w.IsWritable) :
    Wants (Shape.optional read) texts := by
  intro v
  cases v with
  | null => simpa [Shape.optional] using hnull
  | _ => simpa [Shape.optional] using h _

/-! ### Collections -/

theorem isDone_items {n : Nat} {vs : List Value} : (items read n vs).IsDone ↔ ∀ v ∈ vs, (read v).IsDone := by
  induction vs generalizing n with
  | nil => simp [items]
  | cons v vs ih => simp [items, ih]

theorem Wants.list (h : Wants read texts) : Wants (Shape.list read) fun v => (members v).flatMap texts := by
  intro v
  have hmembers : (Shape.list read v).IsDone ↔ ∀ w ∈ members v, (read w).IsDone := by
    simp only [Shape.list, listOr, members]
    cases v.opened <;> simp [isDone_items]
  rw [hmembers, List.forall_mem_flatMap]
  exact forall₂_congr fun w _ => h w

theorem isDone_textEntries {entries : List (Value × Value)} :
    (textEntries true entries).IsDone ↔ ∀ e ∈ entries, e.1.IsWritable ∧ e.2.IsWritable := by
  induction entries with
  | nil => simp [textEntries]
  | cons e entries ih => simp [textEntries, isDone_points, wants_text e.2, ih, and_assoc]

theorem wants_textMapping : Wants (textMapping true) fun v => (fieldsOf v).flatMap fun e => [e.1, e.2] := by
  intro v
  simp only [textMapping, fieldsOf, Value.entries?]
  cases v.opened with
  | mapping entries =>
    rw [Option.getD_some, List.forall_mem_flatMap]
    simp only [Checked.map, Checked.isDone_map, isDone_textEntries, List.forall_mem_cons, List.not_mem_nil,
      false_implies, implies_true, and_true]
  | _ => simp

/-! ### Records -/

variable {readIn : Fields → Checked α} {textsIn : Fields → List Value}

theorem Wants.required (h : Wants read texts) (name : String) :
    WantsIn (Shape.required name read) fun fields => (field name fields).flatMap texts := by
  intro fields
  simp only [Shape.required, field]
  cases Value.lookupEntry name fields with
  | none => simp
  | some v => simpa using h v

theorem Wants.withDefault (h : Wants read texts) (name : String) (absent : α) :
    WantsIn (Shape.withDefault name absent read) fun fields => (field name fields).flatMap texts := by
  intro fields
  simp only [Shape.withDefault, field]
  cases Value.lookupEntry name fields with
  | none => simp
  | some v => simpa using h v

theorem WantsIn.map (h : WantsIn readIn textsIn) (f : α → β) : WantsIn (fun fields => f <$> readIn fields) textsIn :=
  fun fields => by simpa using h fields

theorem WantsIn.seq {readF : Fields → Checked (α → β)} {textsF : Fields → List Value} (hf : WantsIn readF textsF)
    (h : WantsIn readIn textsIn) :
    WantsIn (fun fields => readF fields <*> readIn fields) fun fields => textsF fields ++ textsIn fields := by
  intro fields
  rw [List.forall_mem_append, Checked.isDone_seq, hf fields, h fields]

theorem WantsIn.closedRecord (h : WantsIn readIn textsIn) (hempty : textsIn [] = []) (known : List String) :
    Wants (Shape.closedRecord known readIn) fun v => textsIn (fieldsOf v) := by
  intro v
  simp only [Shape.closedRecord, record, fieldsOf, Value.entries?]
  cases v.opened with
  | mapping fields =>
    rw [Option.getD_some, ← h fields]
    -- violations beside the fields do not break a check off
    cases hread : readIn fields with
    | broken e => simp [hread]
    | ok a => by_cases hhalves : fields.any (fun e => isHalves e.1) <;> simp [hread, hhalves]
    | bad violations => by_cases hhalves : fields.any (fun e => isHalves e.1) <;> simp [hread, hhalves]
  | _ => simp [hempty]

end Shape

/-! ## Topology documents -/

namespace Document

open Shape

def namedTexts (names : List String) (fields : Fields) : List Value :=
  names.flatMap fun name => field name fields

def envEntryTexts (v : Value) : List Value :=
  namedTexts ["key", "value"] (fieldsOf v)

/-- Keys and values, in a mapping or in a list of entries. -/
def envTexts (v : Value) : List Value :=
  ((fieldsOf v).flatMap fun e => [e.1, e.2]) ++ (members v).flatMap envEntryTexts

def instanceTexts (v : Value) : List Value :=
  let fields := fieldsOf v
  namedTexts ["id", "type", "name", "database"] fields
    ++ (field "env" fields).flatMap envTexts
    ++ (namedTexts ["ports", "volumes"] fields).flatMap members

def connectionTexts (v : Value) : List Value :=
  namedTexts ["id", "source", "target"] (fieldsOf v)

/-- The values in a topology document that are wanted as texts. -/
def documentTexts (v : Value) : List Value :=
  let fields := fieldsOf v
  field "version" fields
    ++ ((field "instances" fields).flatMap fun v => (members v).flatMap instanceTexts)
    ++ ((field "connections" fields).flatMap fun v => (members v).flatMap connectionTexts)

theorem wants_envEntry : Wants envEntry envEntryTexts := by
  have hkey := wants_text.required "key"
  have hvalue := wants_text.withDefault "value" ""
  have hrecord := ((hkey.map EnvVar.mk).seq hvalue).closedRecord rfl ["key", "value"]
  intro v
  rw [envEntry, hrecord v]
  simp [envEntryTexts, namedTexts]

/-- What fits as a mapping is no list. -/
theorem isDone_list_of_textMapping {α : Type} {read : Shape.Reader α} {v : Value} {pairs : List (String × String)}
    (h : textMapping true v = .ok pairs) : (list read v).IsDone := by
  rw [textMapping] at h
  split at h
  · rename_i entries hentries
    simp [list, listOr, hentries]
  · cases h

theorem wants_env : Wants env envTexts := by
  intro v
  rw [envTexts, List.forall_mem_append, ← wants_textMapping v, ← wants_envEntry.list v]
  cases hmapping : textMapping true v with
  | ok pairs => simp [env, hmapping, isDone_list_of_textMapping hmapping]
  | broken e => simp [env, hmapping, Checked.under]
  | bad us => cases hlist : list envEntry v <;> simp [env, hmapping, hlist, Checked.under]

theorem wants_instanceEntry : Wants instanceEntry instanceTexts := by
  have hid := wants_text.required "id"
  have htype := wants_text.required "type"
  have hname := wants_text.withDefault "name" ""
  have hdatabase := (wants_text.optional (by simp [Value.IsWritable])).withDefault "database" none
  have hpersistent := (wants_bool.optional (by simp)).withDefault "persistent" none
  have henv := wants_env.withDefault "env" []
  have hports := wants_text.list.withDefault "ports" []
  have hvolumes := wants_text.list.withDefault "volumes" []
  have hreplicas := (wants_int.optional (by simp)).withDefault "replicas" none
  have hrecord := ((((((((hid.map InstanceEntry.mk).seq htype).seq hname).seq hdatabase).seq hpersistent).seq
    henv).seq hports).seq hvolumes).seq hreplicas |>.closedRecord rfl
      ["id", "type", "name", "database", "persistent", "env", "ports", "volumes", "replicas"]
  intro v
  rw [instanceEntry, hrecord v]
  simp [instanceTexts, namedTexts, List.flatMap_append]

theorem wants_connectionEntry : Wants connectionEntry connectionTexts := by
  have hid := (wants_text.optional (by simp [Value.IsWritable])).withDefault "id" none
  have hsource := wants_text.required "source"
  have htarget := wants_text.required "target"
  have hkind := (wants_choice ConnectionKind.ofName?).withDefault "kind" ConnectionKind.reference
  have hrecord := (((hid.map fun id source target kind => Connection.make (id.getD "") source target kind).seq
    hsource).seq htarget).seq hkind |>.closedRecord rfl ["id", "source", "target", "kind"]
  intro v
  rw [connectionEntry, hrecord v]
  simp [connectionTexts, namedTexts]

theorem wants_document : Wants document documentTexts := by
  have hversion := wants_text.withDefault "version" version
  have hinstances := wants_instanceEntry.list.withDefault "instances" []
  have hconnections := wants_connectionEntry.list.withDefault "connections" []
  have hrecord := ((hversion.map fun (_ : String) (instances : List InstanceEntry) (connections : List Connection) =>
    (instances, connections)).seq hinstances).seq hconnections |>.closedRecord rfl
      ["version", "instances", "connections"]
  intro v
  rw [document, hrecord v]
  simp [documentTexts]

end Document
end HostTopology
