import DeviceGraph.Proofs.Statement.Parameters
import DeviceGraph.Proofs.Statement.Text

/-!
# The parameters that a text mentions

A reader of a statement skips quoted names and takes every dollar sign outside
them for the beginning of a parameter name, which goes on as long as the
characters allow. Pieces that keep apart are read back: what the reader finds is
the parameter names of the pieces, whatever the quoted names hold.
-/

set_option autoImplicit false

namespace DeviceGraph

namespace Statement

def isWordChar (c : Char) : Bool := c.isAlphanum || c = '_'

def placeholders : List Char → List String
  | [] => []
  | c :: rest =>
    if c = '\x60' then placeholders (Identifier.readName rest).2
    else if c = '$' then String.ofList (rest.takeWhile isWordChar) :: placeholders rest
    else placeholders rest
termination_by cs => cs.length
decreasing_by
  · exact Nat.lt_succ_of_le (Identifier.length_readName_le rest)
  · exact Nat.lt_succ_self _
  · exact Nat.lt_succ_self _

def Word (name : String) : Prop := ∀ c ∈ name.toList, isWordChar c = true

def Bare (text : String) : Prop := ∀ c ∈ text.toList, c ≠ '\x60' ∧ c ≠ '$'

instance (name : String) : Decidable (Word name) :=
  decidable_of_iff (name.toList.all isWordChar = true) (by simp [Word])

instance (text : String) : Decidable (Bare text) :=
  decidable_of_iff (text.toList.all (fun c => c != '\x60' && c != '$') = true) (by simp [Bare])

@[simp] theorem word_append (a b : String) : Word (a ++ b) ↔ Word a ∧ Word b := by
  rw [Word, String.toList_append, List.forall_mem_append]
  rfl

@[simp] theorem bare_append (a b : String) : Bare (a ++ b) ↔ Bare a ∧ Bare b := by
  rw [Bare, String.toList_append, List.forall_mem_append]
  rfl

theorem isWordChar_of_isDigit {c : Char} (h : c.isDigit = true) : isWordChar c = true := by
  simp [isWordChar, Char.isAlphanum, h]

@[simp] theorem word_decimalText (n : Nat) : Word (decimalText n) := by
  intro c hc
  have hm : c ∈ (numbered "" n).toList := by
    rw [numbered, String.toList_append]
    exact List.mem_append_right _ hc
  rcases mem_numbered hm with hm | hd
  · exact absurd hm (by simp)
  · exact isWordChar_of_isDigit hd

theorem word_numbered {stem : String} (h : Word stem) (n : Nat) : Word (numbered stem n) :=
  (word_append _ _).mpr ⟨h, word_decimalText n⟩

theorem Word.bare {name : String} (h : Word name) : Bare name := by
  intro c hc
  have hword := h c hc
  constructor <;> rintro rfl <;> revert hword <;> decide

/-! ## Reading on -/

theorem placeholders_bare {text : String} (h : Bare text) (rest : List Char) :
    placeholders (text.toList ++ rest) = placeholders rest := by
  unfold Bare at h
  generalize text.toList = cs at h
  induction cs with
  | nil => rfl
  | cons c cs ih =>
    obtain ⟨hquote, hdollar⟩ := h c List.mem_cons_self
    rw [List.cons_append, placeholders, if_neg hquote, if_neg hdollar]
    exact ih fun d hd => h d (List.mem_cons_of_mem c hd)

def Ended (rest : List Char) : Prop := ∀ c ∈ rest.head?, c ≠ '\x60' ∧ isWordChar c = false

theorem Ended.append {cs rest : List Char} (h : Ended cs) (hr : Ended rest) :
    Ended (cs ++ rest) := by
  cases cs with
  | nil => exact hr
  | cons c cs => exact h

def Separates (text : String) : Prop :=
  Bare text ∧ text.toList.head?.any (fun c => !isWordChar c) = true

instance (text : String) : Decidable (Separates text) := inferInstanceAs (Decidable (_ ∧ _))

theorem Separates.ended {text : String} (h : Separates text) (rest : List Char) :
    Ended (text.toList ++ rest) := by
  obtain ⟨hbare, hhead⟩ := h
  unfold Bare at hbare
  generalize text.toList = cs at hbare hhead
  cases cs with
  | nil => cases hhead
  | cons c cs =>
    intro d hd
    cases hd
    exact ⟨(hbare c List.mem_cons_self).1, by simpa using hhead⟩

@[simp] theorem separates_append {a : String} (ha : Separates a) (b : String) :
    Separates (a ++ b) ↔ Bare b := by
  have hhead : (a ++ b).toList.head?.any (fun c => !isWordChar c) = true := by
    have hfirst := ha.2
    rw [String.toList_append]
    cases ha' : a.toList with
    | nil =>
      rw [ha'] at hfirst
      cases hfirst
    | cons c cs =>
      rw [ha'] at hfirst
      exact hfirst
  rw [Separates, bare_append]
  exact ⟨fun h => h.1.2, fun h => ⟨⟨ha.1, h⟩, hhead⟩⟩

theorem Separates.append {a b : String} (ha : Separates a) (hb : Bare b) : Separates (a ++ b) :=
  (separates_append ha b).mpr hb

@[simp] theorem ended_nil : Ended [] := fun _ hc => nomatch hc

@[simp] theorem ended_text {t : String} (h : Separates t) (rest : List Char) :
    Ended ((Piece.text t).chars ++ rest) := h.ended rest

@[simp] theorem ended_last_text {t : String} (h : Separates t) : Ended (Piece.text t).chars :=
  List.append_nil (Piece.text t).chars ▸ h.ended []

theorem placeholders_quote {name : List Char} {rest : List Char} (h : Ended rest) :
    placeholders (Identifier.quote name ++ rest) = placeholders rest := by
  have hrest : rest.head? ≠ some '\x60' := fun he => (h _ he).1 rfl
  rw [Identifier.quote_append, placeholders, if_pos rfl, Identifier.readName_escape name hrest]

theorem placeholders_slot {name : String} (hn : Word name) {rest : List Char} (h : Ended rest) :
    placeholders ('$' :: name.toList ++ rest) = name :: placeholders rest := by
  have htake : (name.toList ++ rest).takeWhile isWordChar = name.toList := by
    rw [List.takeWhile_append_of_pos hn]
    cases rest with
    | nil => simp
    | cons c rest =>
      have hc := (h c rfl).2
      simp [hc]
  rw [List.cons_append, placeholders, if_neg (by decide), if_pos rfl, htake,
    placeholders_bare hn.bare, String.ofList_toList]

end Statement

/-! ## Pieces -/

namespace Piece

open Statement

def slot? : Piece → Option String
  | .slot p => some p
  | _ => none

def slots (pieces : List Piece) : List String := pieces.filterMap slot?

def Apart : List Piece → Prop
  | [] => True
  | .text t :: rest => Bare t ∧ Apart rest
  | .name _ :: rest => Ended (charsOf rest) ∧ Apart rest
  | .slot p :: rest => Word p ∧ Ended (charsOf rest) ∧ Apart rest

@[simp] theorem slots_nil : slots [] = [] := rfl

@[simp] theorem slots_text (t : String) (rest : List Piece) :
    slots (.text t :: rest) = slots rest := rfl

@[simp] theorem slots_name (i : Identifier) (rest : List Piece) :
    slots (.name i :: rest) = slots rest := rfl

@[simp] theorem slots_slot (p : String) (rest : List Piece) :
    slots (.slot p :: rest) = p :: slots rest := rfl

@[simp] theorem slots_append (ps qs : List Piece) : slots (ps ++ qs) = slots ps ++ slots qs :=
  List.filterMap_append

theorem placeholders_charsOf {pieces : List Piece} (h : Apart pieces) {rest : List Char}
    (hr : Ended rest) :
    placeholders (charsOf pieces ++ rest) = slots pieces ++ placeholders rest := by
  induction pieces with
  | nil => rfl
  | cons p pieces ih =>
    rw [charsOf_cons, List.append_assoc]
    cases p with
    | text t => rw [chars, placeholders_bare h.1, ih h.2, slots_text]
    | name i => rw [chars, placeholders_quote (h.1.append hr), ih h.2, slots_name]
    | slot p => rw [chars, placeholders_slot h.1 (h.2.1.append hr), ih h.2.2, slots_slot,
        List.cons_append]

theorem Apart.text {ps : List Piece} (h : Apart ps) {t : String} (ht : Bare t) :
    Apart (.text t :: ps) := ⟨ht, h⟩

theorem Apart.append {ps qs : List Piece} (hp : Apart ps) (hq : Apart qs)
    (he : Ended (charsOf qs)) : Apart (ps ++ qs) := by
  induction ps with
  | nil => exact hq
  | cons p ps ih =>
    have hrest : ∀ h : Ended (charsOf ps), Ended (charsOf (ps ++ qs)) := fun h => by
      rw [charsOf_append]
      exact h.append he
    cases p with
    | text t => exact ⟨hp.1, ih hp.2⟩
    | name i => exact ⟨hrest hp.1, ih hp.2⟩
    | slot p => exact ⟨hp.1, hrest hp.2.1, ih hp.2.2⟩

theorem Apart.then_text {ps qs : List Piece} {t : String} (hp : Apart ps) (ht : Separates t)
    (hq : Apart qs) : Apart (ps ++ .text t :: qs) :=
  hp.append ⟨ht.1, hq⟩ (ht.ended _)

theorem Apart.end_text {ps : List Piece} {t : String} (hp : Apart ps) (ht : Separates t) :
    Apart (ps ++ [.text t]) := hp.then_text ht trivial

theorem apart_join {separator : String} (hs : Separates separator) {pss : List (List Piece)}
    (h : ∀ ps ∈ pss, Apart ps) : Apart (joinPieces separator pss) := by
  fun_induction joinPieces separator pss with
  | case1 => trivial
  | case2 ps => exact h ps List.mem_cons_self
  | case3 ps next rest ih =>
    exact (h ps List.mem_cons_self).then_text hs (ih fun qs hq => h qs (List.mem_cons_of_mem ps hq))

@[simp] theorem slots_join (separator : String) (pss : List (List Piece)) :
    slots (joinPieces separator pss) = pss.flatMap slots := by
  fun_induction joinPieces separator pss with
  | case1 => rfl
  | case2 ps => simp
  | case3 ps next rest ih => simp [ih]

end Piece

end DeviceGraph
