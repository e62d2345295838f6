import DeviceGraph.Proofs.Statement.Tokens

/-!
# Reading what a text assigns

A text that finds one vertex and changes its properties is read line by line: the first line
says which vertex, and every other one is a list of assignments, each from a parameter, or a
list of properties to delete. Nothing but the text and the values of the parameters counts.
-/

set_option autoImplicit false

namespace DeviceGraph

inductive Effect
  | assign (items : List (String × String))
  | delete (properties : List String)

namespace Effect

def apply (value : String → Json) (stored : Properties) : Effect → Properties
  | assign items => items.foldl (fun p item => p.insert item.1 (value item.2)) stored
  | delete properties => properties.foldl (fun p property => p.erase property) stored

end Effect

structure Reading where
  label : String
  slot : String
  effects : List Effect

namespace Reading

def apply (r : Reading) (value : String → Json) (stored : Properties) : Properties :=
  r.effects.foldl (Effect.apply value) stored

def after? (text : String) (ts : List Token) : Option (List Token) :=
  ts.dropPrefix? (text.toList.map .char)

def ofFirst? (ts : List Token) : Option (String × String) :=
  match after? "MATCH (v:" ts with
  | some (.name label :: rest) =>
    match after? " \x7bid: " rest with
    | some (.slot slot :: rest) =>
      if after? "\x7d)" rest = some [] then some (label, slot) else none
    | _ => none
  | _ => none

def item? (ts : List Token) : Option (String × String) :=
  match after? " v." ts with
  | some (.name property :: rest) =>
    match after? " = " rest with
    | some [.slot slot] => some (property, slot)
    | _ => none
  | _ => none

def property? (ts : List Token) : Option String :=
  match after? " v." ts with
  | some [.name property] => some property
  | _ => none

def effect? (ts : List Token) : Option Effect :=
  match after? "SET" ts, after? "REMOVE" ts with
  | some rest, _ => ((rest.splitOn (.char ',')).mapM item?).map .assign
  | none, some rest => ((rest.splitOn (.char ',')).mapM property?).map .delete
  | none, none => none

def ofText? (text : String) : Option Reading :=
  match Statement.lines text with
  | [] => none
  | first :: rest => do
    let (label, slot) ← ofFirst? first
    return ⟨label, slot, ← rest.mapM effect?⟩

/-! ## Reading clauses -/

theorem after?_append (text : String) (rest : List Token) :
    after? text (text.toList.map .char ++ rest) = some rest :=
  List.dropPrefix?_eq_some_iff.mpr ⟨_, rfl, beq_self_eq_true _⟩

theorem ofFirst?_tokensOf (label : Identifier) (slot : String) :
    ofFirst? (Piece.tokensOf (Clause.findVertices [⟨"v", label, slot⟩]).pieces) =
      some (label.name, slot) := by
  have hpieces : Piece.tokensOf (Clause.findVertices [⟨"v", label, slot⟩]).pieces =
      "MATCH (v:".toList.map .char ++ .name label.name :: (" \x7bid: ".toList.map .char ++
        .slot slot :: ("\x7d)".toList.map .char ++ [])) := by
    simp [Clause.pieces, joinPieces, VertexPattern.pieces, Piece.tokensOf, Piece.tokens]
  rw [hpieces, ofFirst?, after?_append]
  dsimp only
  rw [after?_append]
  dsimp only
  rw [after?_append, if_pos rfl]

def itemTokens (item : Identifier × String) : List Token :=
  "v.".toList.map .char ++ .name item.1.name :: (" = ".toList.map .char ++ [.slot item.2])

def propertyTokens (property : Identifier) : List Token :=
  "v.".toList.map .char ++ [.name property.name]

theorem item?_itemTokens (item : Identifier × String) :
    item? (.char ' ' :: itemTokens item) = some (item.1.name, item.2) := by
  have htokens : .char ' ' :: itemTokens item = " v.".toList.map .char ++
      .name item.1.name :: (" = ".toList.map .char ++ [.slot item.2]) := rfl
  rw [htokens, item?, after?_append]
  dsimp only
  rw [after?_append]

theorem property?_propertyTokens (property : Identifier) :
    property? (.char ' ' :: propertyTokens property) = some property.name := by
  have htokens : .char ' ' :: propertyTokens property =
      " v.".toList.map .char ++ [.name property.name] := rfl
  rw [htokens, property?, after?_append]

theorem intercalate_comma {items : List (List Token)} (h : items ≠ []) :
    .char ' ' :: [Token.char ',', .char ' '].intercalate items =
      [Token.char ','].intercalate (items.map (.char ' ' :: ·)) := by
  induction items with
  | nil => exact absurd rfl h
  | cons item rest ih =>
    cases rest with
    | nil => rfl
    | cons next rest =>
      have hrest := ih (List.cons_ne_nil _ _)
      simp only [List.map_cons, List.intercalate_cons_cons] at hrest ⊢
      rw [← hrest]
      simp

/-- Items without commas of their own are read one by one. -/
theorem mapM_splitOn {α β : Type} {read : List Token → Option α} {written : β → List Token}
    {f : β → α} (hread : ∀ b, read (.char ' ' :: written b) = some (f b))
    (hcomma : ∀ b, .char ',' ∉ written b) {items : List β} (h : items ≠ []) :
    ((.char ' ' :: [Token.char ',', .char ' '].intercalate (items.map written)).splitOn
      (.char ',')).mapM read = some (items.map f) := by
  rw [intercalate_comma (by simpa using h), List.map_map,
    List.splitOn_intercalate _ (by simpa using fun b _ => hcomma b) (by simpa using h),
    List.mapM_map]
  clear h
  induction items with
  | nil => rfl
  | cons item rest ih => simp [hread, ih]

theorem effect?_setProperties {items : List (Identifier × String)} (h : items ≠ []) :
    effect? (Piece.tokensOf (Clause.setProperties "v" items).pieces) =
      some (.assign (items.map fun item => (item.1.name, item.2))) := by
  have hpieces : Piece.tokensOf (Clause.setProperties "v" items).pieces =
      "SET".toList.map .char ++ .char ' ' :: [Token.char ',', .char ' '].intercalate
        (items.map itemTokens) := by
    rw [Clause.pieces, Piece.tokensOf, List.flatMap_cons, ← Piece.tokensOf,
      Piece.tokensOf_joinPieces, List.map_map]
    rfl
  have hitems := mapM_splitOn item?_itemTokens (by simp [itemTokens]) h
  rw [hpieces, effect?, after?_append]
  dsimp only
  rw [hitems]
  rfl

theorem effect?_removeProperties {properties : List Identifier} (h : properties ≠ []) :
    effect? (Piece.tokensOf (Clause.removeProperties "v" properties).pieces) =
      some (.delete (properties.map (·.name))) := by
  have hpieces : Piece.tokensOf (Clause.removeProperties "v" properties).pieces =
      "REMOVE".toList.map .char ++ .char ' ' :: [Token.char ',', .char ' '].intercalate
        (properties.map propertyTokens) := by
    rw [Clause.pieces, Piece.tokensOf, List.flatMap_cons, ← Piece.tokensOf,
      Piece.tokensOf_joinPieces, List.map_map]
    rfl
  have hproperties := mapM_splitOn property?_propertyTokens (by simp [propertyTokens]) h
  have hset : ∀ rest, after? "SET" ("REMOVE".toList.map .char ++ rest) = none := fun _ => rfl
  rw [hpieces, effect?, hset, after?_append]
  dsimp only
  rw [hproperties]
  rfl

/-! ## Clauses on one line -/

theorem oneLine_findVertices (label : Identifier) (slot : String) :
    Piece.OneLine (Clause.findVertices [⟨"v", label, slot⟩]).pieces := by
  simp [Clause.pieces, joinPieces, VertexPattern.pieces, Piece.OneLine, Piece.tokensOf,
    Piece.tokens]

theorem oneLine_setProperties (items : List (Identifier × String)) :
    Piece.OneLine (Clause.setProperties "v" items).pieces := by
  refine (Piece.oneLine_cons _ _).mpr ⟨by simp [Piece.tokens], ?_⟩
  refine Piece.oneLine_joinPieces (by decide) (List.forall_mem_map.mpr fun item _ => ?_)
  simp [Piece.OneLine, Piece.tokensOf, Piece.tokens]

theorem oneLine_removeProperties (properties : List Identifier) :
    Piece.OneLine (Clause.removeProperties "v" properties).pieces := by
  refine (Piece.oneLine_cons _ _).mpr ⟨by simp [Piece.tokens], ?_⟩
  refine Piece.oneLine_joinPieces (by decide) (List.forall_mem_map.mpr fun property _ => ?_)
  simp [Piece.OneLine, Piece.tokensOf, Piece.tokens]

end Reading

end DeviceGraph
