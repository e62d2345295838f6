import DeviceGraph.Proofs.Store.Making
import DeviceGraph.Search.Statement

/-!
# Making the statement of a search

The conditions of a search mention the values of its filters and the group above,
and the last clause the bounds of the page.
-/

set_option autoImplicit false

namespace DeviceGraph.Search

open Statement Piece

variable {access : Access} {s t : Statement} {fixed pending : List String}

theorem silent_hopPieces {tag : String} (htag : Word tag) {hops : List Hop} {i : Nat}
    {pieces : List Piece} (h : hopPieces tag i hops = .ok pieces) : Silent pieces := by
  induction hops generalizing i pieces with
  | nil =>
    cases h
    exact ⟨trivial, rfl⟩
  | cons hop hops ih =>
    obtain ⟨relationName, direction⟩ := hop
    obtain ⟨relation, _, h⟩ := (Checks.bind_eq_ok_iff _ _ _).mp h
    have hall : ∀ before after path, Bare before → Separates after →
        hopPieces tag (i + 1) hops = .ok path →
        Silent (.text before :: .name relation ::
          .text (after ++ tag ++ decimalText i ++ ")") :: path) := by
      intro before after path hbefore hafter hpath
      obtain ⟨hpath, hslots⟩ := ih hpath
      have hvar : Separates (after ++ tag ++ decimalText i ++ ")") :=
        .append (.append (.append hafter htag.bare) (word_decimalText i).bare) (by decide)
      exact ⟨⟨hbefore, hvar.ended _, hvar.1, hpath⟩, hslots⟩
    cases direction <;>
    · obtain ⟨path, hpath, hok⟩ := (Checks.bind_eq_ok_iff _ _ _).mp h
      cases hok
      exact hall _ _ _ (by decide) (by decide) hpath

theorem making_filterCondition {op : Operator} {f : Filter} {condition : List Piece}
    (h : Making access s fixed pending) (hf : filterCondition s op f = .ok (t, condition)) :
    Apart condition ∧ Making access t fixed (slots condition ++ pending) := by
  obtain ⟨field, _, hf⟩ := (Checks.bind_eq_ok_iff _ _ _).mp hf
  have hbound := h.bindFresh "s" (by decide) f.value
  have hop : Separates (" " ++ op.comparison ++ " ") := by cases op <;> decide
  have hslot : Word (numbered "s" s.issued) := word_numbered (by decide) _
  have hcompare : ∀ var, Word var → Apart [.text (var ++ "."), .name field,
      .text (" " ++ op.comparison ++ " "), .slot (numbered "s" s.issued)] := fun var hvar =>
    ⟨(bare_append _ _).mpr ⟨hvar.bare, by decide⟩, hop.ended _, hop.1, hslot, by simp,
      trivial⟩
  dsimp only at hf
  split at hf
  · cases hf
    exact ⟨hcompare "n" (by decide), hbound⟩
  · next hhops =>
    obtain ⟨path, hpath, hok⟩ := (Checks.bind_eq_ok_iff _ _ _).mp hf
    cases hok
    have hlast : Word (decimalText (f.hops.length - 1)) := by
      have hlength := List.length_pos_iff.mpr hhops
      have hcast : (f.hops.length : Int) - 1 = (f.hops.length - 1 : Nat) := by omega
      rw [hcast]
      exact word_decimalText _
    have htag : Word ("h" ++ decimalText (s.bindFresh "s" f.value).1.params.size ++ "_") := by
      simp +decide
    obtain ⟨hpath, hsilent⟩ := silent_hopPieces htag hpath
    have hend := hcompare _ ((word_append _ _).mpr ⟨htag, hlast⟩)
    have hexists := (hpath.text (t := "EXISTS \x7b MATCH (n)") (by decide)).then_text
      (t := " WHERE ") (by decide) hend
    refine ⟨hexists.end_text (t := " \x7d") (by decide), ?_⟩
    exact hbound.congr (by simp [hsilent, numbered, Statement.bindFresh])

theorem making_filterConditions {filters : List (Operator × Filter)}
    {conditions : List (List Piece)} (h : Making access s fixed pending)
    (hf : filterConditions s filters = .ok (t, conditions)) :
    (∀ ps ∈ conditions, Apart ps) ∧
      Making access t fixed (conditions.flatMap slots ++ pending) := by
  induction filters generalizing s pending conditions with
  | nil =>
    cases hf
    exact ⟨fun _ hm => absurd hm List.not_mem_nil, h⟩
  | cons entry filters ih =>
    obtain ⟨op, f⟩ := entry
    obtain ⟨⟨s₁, condition⟩, hone, hf⟩ := (Checks.bind_eq_ok_iff _ _ _).mp hf
    obtain ⟨⟨s₂, rest⟩, hrest, hf⟩ := (Checks.bind_eq_ok_iff _ _ _).mp hf
    cases hf
    obtain ⟨hcondition, hmade⟩ := making_filterCondition h hone
    obtain ⟨hapart, hall⟩ := ih hmade hrest
    exact ⟨List.forall_mem_cons.mpr ⟨hcondition, hapart⟩, hall.congr (by simp [or_left_comm])⟩

theorem silent_typeConditions {types : List String} {conditions : List (List Piece)}
    (h : typeConditions types = .ok conditions) :
    (∀ ps ∈ conditions, Apart ps) ∧ conditions.flatMap slots = [] := by
  rw [typeConditions] at h
  split at h
  · cases h
    exact ⟨fun _ hm => absurd hm List.not_mem_nil, rfl⟩
  · obtain ⟨labels, _, hok⟩ := (Checks.bind_eq_ok_iff _ _ _).mp h
    cases hok
    have hlabels : Apart (joinPieces " OR " (labels.map fun label =>
        [.text "n:", .name label])) := apart_join (by decide) (by simp +decide [Apart])
    have hall := (hlabels.end_text (t := ")") (by decide)).text (t := "(") (by decide)
    exact ⟨by simpa using hall, by simp⟩

theorem making_ancestorConditions {path : Option String} {conditions : List (List Piece)}
    (h : Making access s [] pending) (ha : ancestorConditions s path = .ok (t, conditions)) :
    (∀ ps ∈ conditions, Apart ps) ∧ ∃ fixed, (∀ name ∈ fixed, name = "ancestor") ∧
      Making access t fixed (conditions.flatMap slots ++ pending) := by
  cases path with
  | none =>
    cases ha
    exact ⟨fun _ hm => absurd hm List.not_mem_nil, [], by simp, h⟩
  | some path =>
    obtain ⟨ancestorId, _, hok⟩ := (Checks.bind_eq_ok_iff _ _ _).mp ha
    cases hok
    exact ⟨by simp +decide [Apart], ["ancestor"], by simp,
      h.bind "ancestor" (by decide) (by decide) _⟩

theorem making_pushPage (h : Making access s fixed []) (ho : "offset" ∉ fixed)
    (hc : "count" ∉ fixed) (page : Option Page) :
    ∃ fixed, Making access (pushPage s page) fixed [] := by
  have hordered := h.pushSilent ([.text "WITH DISTINCT n\nORDER BY n.id"])
    ⟨⟨by decide, trivial⟩, rfl⟩ (charsOf_ne_nil (by simp) _)
  have hreturn : Silent [.text "RETURN properties(n) AS result"] ∧
      charsOf [.text "RETURN properties(n) AS result"] ≠ [] :=
    ⟨⟨⟨by decide, trivial⟩, rfl⟩, charsOf_ne_nil (by simp) _⟩
  cases page with
  | none => exact ⟨fixed, hordered.pushSilent _ hreturn.1 hreturn.2⟩
  | some page =>
    have hoffset := hordered.bind "offset" (by decide) ho (.ofNat page.offset)
    have hcount := hoffset.bind "count" (by decide) (by simpa using hc)
      (.ofNat page.count)
    have hpaged := hcount.push (.written [.text "SKIP ", .slot "offset",
        .text " LIMIT ", .slot "count"]) [] ⟨by simp +decide [Apart], charsOf_ne_nil (by simp) _⟩
      (by simp [Clause.slots, or_comm])
    exact ⟨_, hpaged.pushSilent _ hreturn.1 hreturn.2⟩

theorem making_where (h : Making access s fixed pending) {conditions : List (List Piece)}
    (hc : ∀ ps ∈ conditions, Apart ps)
    (hp : ∀ name, name ∈ pending ↔ name ∈ conditions.flatMap slots) :
    Making access (if conditions = [] then s
      else s.push (.written (.text "WHERE " :: joinPieces "\n  AND " conditions))) fixed [] := by
  split
  · next hnil =>
    refine h.congr ?_
    simpa [hnil] using hp
  · exact h.push (.written _) _ ⟨(apart_join (by decide) hc).text (by decide),
      charsOf_ne_nil (by simp) _⟩
      (by simpa [Clause.slots] using hp)

theorem Request.making_statement {r : Request} {page : Option Page}
    (h : r.statement page = .ok s) : ∃ fixed, Making .read s fixed [] := by
  obtain ⟨types, htypes, h⟩ := (Checks.bind_eq_ok_iff _ _ _).mp h
  obtain ⟨⟨s₁, ancestor⟩, hancestor, h⟩ := (Checks.bind_eq_ok_iff _ _ _).mp h
  obtain ⟨⟨s₂, filters⟩, hfilters, h⟩ := (Checks.bind_eq_ok_iff _ _ _).mp h
  cases h
  obtain ⟨htypes, hsilent⟩ := silent_typeConditions htypes
  obtain ⟨hancestor, fixed, hfixed, h₁⟩ := making_ancestorConditions (.new .read) hancestor
  obtain ⟨hfilters, h₂⟩ := making_filterConditions h₁ hfilters
  have hconditions : ∀ ps ∈ types ++ ancestor ++ filters, Apart ps :=
    List.forall_mem_append.mpr ⟨List.forall_mem_append.mpr ⟨htypes, hancestor⟩, hfilters⟩
  have hmatch := h₂.pushSilent ([.text "MATCH (n)"]) ⟨⟨by decide, trivial⟩, rfl⟩
    (charsOf_ne_nil (by simp) _)
  have hwhere := making_where hmatch hconditions (by simp [hsilent, or_comm])
  generalize (if types ++ ancestor ++ filters = [] then s₂.push (.written [.text "MATCH (n)"])
    else _) = s₃ at hwhere ⊢
  split
  · exact ⟨fixed, hwhere.pushSilent _ ⟨⟨by decide, trivial⟩, rfl⟩ (charsOf_ne_nil (by simp) _)⟩
  · exact making_pushPage hwhere (fun hm => absurd (hfixed _ hm) (by decide))
      (fun hm => absurd (hfixed _ hm) (by decide)) page

end DeviceGraph.Search
