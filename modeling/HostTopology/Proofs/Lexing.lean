import HostTopology.Yaml.Token.Lexer

/-!
# Lexing — where a YAML text breaks off

The tokens of a text end with a fault where it stops being readable. Most such texts are malformed; this
file shows what the others are:

* `Fault.IsLexical` — a version number with too many digits, and an escape beyond the last code point;
* `Reads` — a part of the lexer has no other faults, and its results are as they should be;
* `Lexer.reads_next` — one step of the lexer;
* `Token.isLexical_of_broken` — the whole text.
-/

namespace HostTopology
namespace Yaml

open Cursor

def Fault.IsLexical : Fault → Prop
  | malformed => True
  | number => True
  | codePoint code => 0x110000 ≤ code
  | _ => False

section Reads

variable {α β : Type} {Q : α → Prop} {R : β → Prop} {x : Except Fault α}

/-- What is read has a property, and otherwise the fault is lexical. -/
def Reads (Q : α → Prop) : Except Fault α → Prop
  | .ok a => Q a
  | .error fault => fault.IsLexical

abbrev ReadsAny : Except Fault α → Prop :=
  Reads fun _ => True

namespace Reads

theorem malformed : Reads Q (.error .malformed) :=
  trivial

theorem bind {f : α → Except Fault β} (hx : Reads Q x) (hf : ∀ a, Q a → Reads R (f a)) : Reads R (x >>= f) := by
  cases x with
  | ok a => exact hf a hx
  | error fault => exact hx

theorem map {f : α → β} (hx : ReadsAny x) : ReadsAny (x.map f) := by
  cases x with
  | ok a => trivial
  | error fault => exact hx

theorem ite {c : Prop} [Decidable c] {y : Except Fault α} (hx : Reads Q x) (hy : Reads Q y) :
    Reads Q (if c then x else y) := by
  by_cases h : c <;> simpa [h]

end Reads
end Reads

/-! ## Scalars -/

namespace Cursor

theorem reads_ignoredLine (c : Cursor) : ReadsAny c.ignoredLine :=
  Reads.ite trivial Reads.malformed

theorem reads_blockHeader (c : Cursor) : ReadsAny c.blockHeader := by
  have hincrement : ∀ c : Cursor, ReadsAny (if c.peek.isDigit then
      if c.peek = '0' then .error .malformed else .ok (some (c.peek.toNat - '0'.toNat), c.step)
    else .ok (none, c)) := fun c => Reads.ite (Reads.ite Reads.malformed trivial) trivial
  have hgap : ∀ r : Chomping × Option Nat × Cursor,
      ReadsAny (if isSpaceOrEnd r.2.2.peek then .ok r else .error .malformed) :=
    fun r => Reads.ite trivial Reads.malformed
  rw [blockHeader]
  split
  · rename_i chomping _
    exact (hincrement _).bind fun r _ => hgap (chomping, r)
  · refine (hincrement _).bind fun r _ => ?_
    dsimp only
    split
    · rename_i chomping _ _
      exact hgap (chomping, r.1, r.2.step)
    · exact hgap (.clip, r)

theorem reads_blockScalar (outer : Int) (c : Cursor) : ReadsAny (c.blockScalar outer) := by
  refine (reads_blockHeader _).bind fun r _ => (reads_ignoredLine _).bind fun c _ => ?_
  exact Reads.ite trivial trivial

theorem reads_quotedBreaks (n : Nat) (c : Cursor) : ReadsAny (quotedBreaks n c) := by
  induction n generalizing c with
  | zero => trivial
  | succ n ih =>
    refine Reads.ite Reads.malformed ?_
    dsimp only
    split
    · exact (ih _).bind fun _ _ => trivial
    · trivial

theorem reads_quotedSpaces (c : Cursor) : ReadsAny c.quotedSpaces := by
  rw [quotedSpaces]
  dsimp only
  split
  · exact (reads_quotedBreaks _ _).bind fun _ _ => trivial
  · exact Reads.ite Reads.malformed trivial

theorem reads_escape (c : Cursor) : ReadsAny c.escape := by
  rw [escape]
  split
  · trivial
  · refine Reads.ite ?_ Reads.malformed
    dsimp only
    split
    · trivial
    · -- two, four or eight digits were found, but no character has the code that they spell
      rename_i hcode
      exact Nat.le_of_not_lt hcode
  · split
    · exact (reads_quotedBreaks _ _).bind fun _ _ => trivial
    · exact Reads.malformed

theorem reads_quotedPiece (double : Bool) (c : Cursor) : ReadsAny (c.quotedPiece double) := by
  refine Reads.ite trivial (Reads.ite trivial (Reads.ite trivial (Reads.ite trivial (Reads.ite ?_ ?_))))
  · exact (reads_escape _).map
  · exact (reads_quotedSpaces c).map

theorem reads_quotedText (double : Bool) (n : Nat) (c : Cursor) : ReadsAny (quotedText double n c) := by
  induction n generalizing c with
  | zero => exact Reads.malformed
  | succ n ih =>
    refine (reads_quotedPiece double c).bind fun piece _ => ?_
    split
    · exact (ih _).bind fun _ _ => trivial
    · trivial

theorem reads_quotedScalar (c : Cursor) : ReadsAny c.quotedScalar :=
  (reads_quotedText _ _ _).bind fun _ _ => trivial

end Cursor

/-! ## Tokens -/

def Token.IsBroken : Token → Prop
  | broken _ => True
  | _ => False

namespace Lexer

/-- What a reader of one token gives. -/
abbrev ReadsToken : Except Fault (Token × Cursor) → Prop :=
  Reads fun r => ¬ r.1.IsBroken

theorem readsToken_readName {make : String → Token} (hmake : ∀ name, ¬ (make name).IsBroken) (c : Cursor) :
    ReadsToken (readName make c) :=
  Reads.ite Reads.malformed (hmake _)

/-! ### Tags -/

theorem reads_readOctets (n : Nat) (c : Cursor) : ReadsAny (readOctets n c) := by
  induction n generalizing c with
  | zero => trivial
  | succ n ih =>
    refine Reads.ite (Reads.ite ?_ Reads.malformed) trivial
    exact (ih _).bind fun _ _ => trivial

theorem reads_readUriPart (n : Nat) (c : Cursor) : ReadsAny (readUriPart n c) := by
  induction n generalizing c with
  | zero => trivial
  | succ n ih =>
    refine Reads.ite ?_ (Reads.ite ((ih _).bind fun _ _ => trivial) trivial)
    refine (reads_readOctets _ _).bind fun r _ => ?_
    dsimp only
    split
    · exact (ih _).bind fun _ _ => trivial
    · exact Reads.malformed

theorem reads_readUri (c : Cursor) : ReadsAny (readUri c) :=
  (reads_readUriPart _ _).bind fun _ _ => Reads.ite Reads.malformed trivial

theorem reads_readHandle (c : Cursor) : ReadsAny (readHandle c) :=
  Reads.ite Reads.malformed (Reads.ite trivial (Reads.ite trivial Reads.malformed))

theorem readsToken_tagGap (handle : Option String) (suffix : String) (c : Cursor) :
    ReadsToken (if isSpaceOrEnd c.peek then .ok (.tag handle suffix, c) else .error .malformed) :=
  Reads.ite id Reads.malformed

theorem readsToken_tagSuffix (r : String × Cursor) : ReadsToken (do
    let (suffix, c) ← readUri r.2
    if isSpaceOrEnd c.peek then .ok (.tag (some r.1) suffix, c) else .error .malformed) :=
  (reads_readUri _).bind fun _ _ => readsToken_tagGap _ _ _

theorem readsToken_readTag (c : Cursor) : ReadsToken (readTag c) := by
  refine Reads.ite ((reads_readUri _).bind fun r _ => ?_) (Reads.ite (readsToken_tagGap none "!" _) ?_)
  · exact Reads.ite (readsToken_tagGap none r.1 _) Reads.malformed
  · exact Reads.ite ((reads_readHandle _).bind fun r _ => readsToken_tagSuffix r) (readsToken_tagSuffix ("!", _))

/-! ### Directives -/

theorem reads_readVersionPart (c : Cursor) : ReadsAny (readVersionPart c) :=
  Reads.ite Reads.malformed (Reads.ite trivial trivial)

theorem readsToken_readVersion (c : Cursor) : ReadsToken (readVersion c) := by
  refine (reads_readVersionPart _).bind fun major _ => Reads.ite Reads.malformed ?_
  exact (reads_readVersionPart _).bind fun _ _ => Reads.ite id Reads.malformed

theorem readsToken_readTagDirective (c : Cursor) : ReadsToken (readTagDirective c) := by
  refine (reads_readHandle _).bind fun handle _ => Reads.ite Reads.malformed ?_
  exact (reads_readUri _).bind fun _ _ => Reads.ite id Reads.malformed

theorem readsToken_readDirective (c : Cursor) : ReadsToken (readDirective c) := by
  have hline : ∀ r : Token × Cursor, ¬ r.1.IsBroken → ReadsToken (do .ok (r.1, ← r.2.ignoredLine)) :=
    fun r hr => (reads_ignoredLine _).bind fun _ _ => hr
  rw [readDirective]
  refine Reads.ite Reads.malformed ?_
  dsimp only
  split
  · refine Reads.bind (readsToken_readVersion _) ?_
    exact hline
  · refine Reads.bind (readsToken_readTagDirective _) ?_
    exact hline
  · generalize Cursor.skipWhile _ _ = next
    exact hline (.otherDirective, next) id

/-! ### One step -/

/-- No token that has been found is broken. -/
def IsWhole (s : Lexer) : Prop :=
  ∀ t ∈ s.tokens, ¬ t.IsBroken

abbrev ReadsOn : Except Fault Lexer → Prop :=
  Reads IsWhole

variable {s : Lexer} {t : Token}

theorem IsWhole.push (h : s.IsWhole) (ht : ¬ t.IsBroken) : (s.push t).IsWhole :=
  List.forall_mem_cons.2 ⟨ht, h⟩

theorem IsWhole.advance (h : s.IsWhole) (n : Nat) : (s.advance n).IsWhole :=
  h

theorem IsWhole.insert (h : s.IsWhole) (place : Nat) (ht : ¬ t.IsBroken) : (s.insert place t).IsWhole := by
  intro u hu
  by_cases hplace : s.count - place ≤ s.tokens.length
  · rcases (List.mem_insertIdx hplace).1 hu with rfl | hu
    · exact ht
    · exact h u hu
  · -- a place behind the last token leaves the tokens as they are
    have hsame : (s.insert place t).tokens = s.tokens := List.insertIdx_of_length_lt (Nat.lt_of_not_le hplace)
    exact h u (hsame ▸ hu)

theorem IsWhole.skipGap (h : s.IsWhole) (n : Nat) : (skipGap n s).IsWhole := by
  induction n generalizing s with
  | zero => exact h
  | succ n ih =>
    rw [Lexer.skipGap]
    split
    · exact ih h
    · exact h

theorem IsWhole.unwind (h : s.IsWhole) (column : Int) : (s.unwind column).IsWhole := by
  rw [Lexer.unwind]
  split
  · exact h
  · intro u hu
    rcases List.mem_append.1 hu with hu | hu
    · rw [List.eq_of_mem_replicate hu]
      exact id
    · exact h u hu

theorem IsWhole.openBlock (h : s.IsWhole) (column place : Nat) (ht : ¬ t.IsBroken) :
    (s.openBlock column place t).IsWhole := by
  rw [Lexer.openBlock]
  split
  · exact IsWhole.insert h place ht
  · exact h

theorem IsWhole.inBlock (h : s.IsWhole) (column place : Nat) (ht : ¬ t.IsBroken) :
    (if s.inFlow then s else s.openBlock column place t).IsWhole := by
  split
  · exact h
  · exact h.openBlock column place ht

theorem readsOn_dropStaleKeys (h : s.IsWhole) : ReadsOn s.dropStaleKeys :=
  Reads.ite Reads.malformed h

theorem readsOn_dropKey (h : s.IsWhole) : ReadsOn s.dropKey :=
  Reads.ite Reads.malformed h

theorem readsOn_saveKey (h : s.IsWhole) : ReadsOn s.saveKey :=
  Reads.ite ((readsOn_dropKey h).bind fun _ hs => hs) h

theorem readsOn_marker (h : s.IsWhole) (ht : ¬ t.IsBroken) : ReadsOn (s.marker t) :=
  (readsOn_dropKey (h.unwind _)).bind fun _ hs => IsWhole.push hs ht

theorem readsOn_openFlow (h : s.IsWhole) (ht : ¬ t.IsBroken) : ReadsOn (s.openFlow t) :=
  (readsOn_saveKey h).bind fun _ hs => IsWhole.push hs ht

theorem readsOn_closeFlow (h : s.IsWhole) (ht : ¬ t.IsBroken) : ReadsOn (s.closeFlow t) :=
  (readsOn_dropKey h).bind fun _ hs => Reads.ite Reads.malformed (IsWhole.push hs ht)

theorem readsOn_flowEntry (h : s.IsWhole) : ReadsOn s.flowEntry :=
  (readsOn_dropKey h).bind fun _ hs => IsWhole.push hs id

theorem readsOn_blockEntry (h : s.IsWhole) : ReadsOn s.blockEntry := by
  refine Reads.ite Reads.malformed ?_
  exact Reads.bind (readsOn_dropKey (h.inBlock _ _ id)) fun _ hs => IsWhole.push hs id

theorem readsOn_keyMark (h : s.IsWhole) : ReadsOn s.keyMark := by
  refine Reads.ite Reads.malformed ?_
  exact Reads.bind (readsOn_dropKey (h.inBlock _ _ id)) fun _ hs => IsWhole.push hs id

theorem readsOn_valueMark (h : s.IsWhole) : ReadsOn s.valueMark := by
  rw [valueMark]
  split
  · -- a key was saved, so that its own token is put in front of it now
    refine IsWhole.push (IsWhole.advance (IsWhole.inBlock (IsWhole.insert ?_ _ id) _ _ id) 1) id
    exact h
  · refine Reads.ite Reads.malformed ?_
    exact Reads.bind (readsOn_dropKey (h.inBlock _ _ id)) fun _ hs => IsWhole.push hs id

theorem readsOn_keyStart {read : Cursor → Except Fault (Token × Cursor)} (h : s.IsWhole)
    (hread : ∀ c, ReadsToken (read c)) : ReadsOn (s.keyStart read) :=
  (readsOn_saveKey h).bind fun _ hs => (hread _).bind fun _ ht => IsWhole.push hs ht

theorem readsOn_readPlain (h : s.IsWhole) : ReadsOn s.readPlain :=
  (readsOn_saveKey h).bind fun _ hs => IsWhole.push hs id

theorem readsOn_readBlock (h : s.IsWhole) : ReadsOn s.readBlock := by
  refine Reads.bind (readsOn_dropKey h) fun _ hs => ?_
  exact (reads_blockScalar _ _).bind fun _ _ => IsWhole.push hs id

theorem readsOn_readQuoted (h : s.IsWhole) : ReadsOn s.readQuoted :=
  readsOn_keyStart h fun c => (reads_quotedScalar c).bind fun _ _ => id

theorem readsOn_next (h : s.IsWhole) : ReadsOn s.next := by
  rw [next]
  refine Reads.bind (readsOn_dropStaleKeys (h.skipGap _)) fun s hs => ?_
  have hs : (s.unwind s.cursor.column).IsWhole := hs.unwind _
  dsimp only
  -- the end, directives and the two markers; all other tokens are told from the next character
  refine Reads.ite ?_ (Reads.ite ?_ (Reads.ite ?_ (Reads.ite ?_ ?_)))
  · exact Reads.bind (readsOn_dropKey (hs.unwind _)) fun _ hs => IsWhole.push hs id
  · refine Reads.bind (readsOn_dropKey (hs.unwind _)) fun _ hs => ?_
    exact Reads.bind (readsToken_readDirective _) fun _ ht => IsWhole.push hs ht
  · exact readsOn_marker hs id
  · exact readsOn_marker hs id
  split
  · exact readsOn_openFlow hs id
  · exact readsOn_openFlow hs id
  · exact readsOn_closeFlow hs id
  · exact readsOn_closeFlow hs id
  · exact readsOn_flowEntry hs
  · refine Reads.ite (readsOn_blockEntry hs) (Reads.ite (readsOn_keyMark hs) (Reads.ite (readsOn_valueMark hs) ?_))
    refine Reads.ite (readsOn_keyStart hs (readsToken_readName fun _ => id)) ?_
    refine Reads.ite (readsOn_keyStart hs (readsToken_readName fun _ => id)) ?_
    refine Reads.ite (readsOn_keyStart hs readsToken_readTag) (Reads.ite (readsOn_readBlock hs) ?_)
    exact Reads.ite (readsOn_readQuoted hs) (Reads.ite (readsOn_readPlain hs) Reads.malformed)

/-! ### All tokens -/

theorem isLexical_of_breakAt {place : Nat} {fault found : Fault} (h : s.IsWhole) (hfault : fault.IsLexical)
    (hmem : .broken found ∈ s.breakAt place fault) : found.IsLexical := by
  rcases List.mem_cons.1 hmem with hfound | hmem
  · cases hfound
    exact hfault
  · exact absurd trivial (h _ (List.mem_of_mem_drop hmem))

theorem isLexical_of_run {n known : Nat} {fault : Fault} (h : s.IsWhole) (hmem : .broken fault ∈ s.run n known) :
    fault.IsLexical := by
  -- as long as no step fails, the tokens stay whole, so that a broken one is the one a failing step leaves
  induction n generalizing s known with
  | zero => exact absurd trivial (h _ hmem)
  | succ n ih =>
    have hkeys := readsOn_dropStaleKeys h
    rw [run] at hmem
    cases hdrop : s.dropStaleKeys with
    | error found =>
      rw [hdrop] at hmem hkeys
      exact isLexical_of_breakAt h hkeys hmem
    | ok s =>
      rw [hdrop] at hmem hkeys
      have hnext := readsOn_next hkeys
      dsimp only at hmem
      cases hstep : s.next with
      | error found =>
        rw [hstep] at hmem hnext
        exact isLexical_of_breakAt hkeys hnext hmem
      | ok s =>
        rw [hstep] at hmem hnext
        dsimp only at hmem
        split at hmem
        · exact absurd trivial (hnext _ hmem)
        · exact ih hnext hmem

end Lexer

/-- A text breaks off as a malformed one, at a version number with too many digits or at an escape beyond the
last code point. -/
theorem Token.isLexical_of_broken {text : String} {fault : Fault} (h : .broken fault ∈ Token.ofText text) :
    fault.IsLexical := by
  rw [Token.ofText] at h
  dsimp only at h
  split at h
  · have hstart : (Lexer.start text.toList).IsWhole := fun _ ht => absurd ht List.not_mem_nil
    refine Lexer.isLexical_of_run (s := _) ?_ (List.mem_reverse.1 h)
    split
    · exact hstart
    · exact hstart
  · cases List.mem_singleton.1 h
    trivial

end Yaml
end HostTopology
