import DeviceGraph.Node.Json
import DeviceGraph.Proofs.Json.Members

/-!
# Nodes are read back

The written form of a node has no place for vertex ids. Everything else of it is read back, at
every depth: the nodes that it is linked to by direction and relation, in their order.
-/

set_option autoImplicit false

namespace DeviceGraph

theorem Category.ofLabel?_label (category : Category) : ofLabel? category.label = some category := by
  cases category <;> rfl

theorem Direction.ofText?_text (direction : Direction) :
    ofText? direction.text = some direction := by
  cases direction <;> rfl

namespace Node

/-! ## Without vertex ids -/

mutual

def cleared (n : Node) : Node :=
  match n with
  | ⟨id, types, category, attributes, ⟨incoming, outgoing, both⟩, _⟩ =>
    ⟨id, types, category, attributes,
      ⟨clearedSide incoming, clearedSide outgoing, clearedSide both⟩, none⟩

def clearedSide : Option (List (String × List Node)) → Option (List (String × List Node))
  | none => none
  | some side => some (clearedRelations side)

def clearedRelations : List (String × List Node) → List (String × List Node)
  | [] => []
  | (relation, nodes) :: rest => (relation, clearedNodes nodes) :: clearedRelations rest

def clearedNodes : List Node → List Node
  | [] => []
  | n :: rest => cleared n :: clearedNodes rest

end

/-! ## Members of a node -/

theorem linksMember?_eq (members : List (String × Json)) :
    linksMember? members = (Entries.get? "links" members).elim (some {}) links? :=
  Entries.eq_elim_get? rfl (fun _ _ _ => by rw [linksMember?]) members

def linksValue? (sides : List (String × Json)) : Option Json :=
  Json.leftOutIf sides.isEmpty (.object sides)

def writtenFields (n : Node) (links : Option Json) : List (String × Option Json) :=
  [("attributes", some (.ofDict n.attributes)), ("category", some (.string n.category.label)),
    ("id", some (.string n.id)), ("links", links), ("types", some (.ofStrings n.types))]

theorem nodup_writtenFields (n : Node) (links : Option Json) :
    ((n.writtenFields links).map (·.1)).Nodup := by
  show ["attributes", "category", "id", "links", "types"].Nodup
  decide

theorem ofRecord?_written (n : Node) (links : Option Json) :
    ofRecord? ⟨Json.members (n.writtenFields links), false⟩ =
      some { n with links := {}, vertexId := none } := by
  have hnames := n.nodup_writtenFields links
  have hcategory : Category.ofJson? (.string n.category.label) = some n.category :=
    Category.ofLabel?_label n.category
  simp only [ofRecord?, Record.required_members hnames, Record.defaulted_members hnames]
  simp [writtenFields, Entries.get?, Json.string?, Json.list?_ofStrings, Json.dict?_ofDict,
    hcategory]

theorem linksMember?_written (n : Node) (sides : List (String × Json)) :
    linksMember? (Json.members (n.writtenFields (linksValue? sides))) = sides? sides := by
  have hget : (Entries.get? "links" (n.writtenFields (linksValue? sides))).join =
      linksValue? sides := by
    simp [writtenFields, Entries.get?]
  rw [linksMember?_eq, Entries.get?_members (n.nodup_writtenFields _), hget]
  refine Json.elim_leftOutIf (fun hnone => ?_) rfl
  rw [List.isEmpty_iff.mp hnone, sides?]

def writtenSides (links : Links Node) : List (String × Json) :=
  sideJson Direction.both.text links.both ++ sideJson Direction.incoming.text links.incoming ++
    sideJson Direction.outgoing.text links.outgoing

theorem toJson_eq (n : Node) : n.toJson =
    .object (Json.members (n.writtenFields (linksValue? (writtenSides n.links)))) := by
  obtain ⟨id, types, category, attributes, ⟨incoming, outgoing, both⟩, vertexId⟩ := n
  have hsides : sideJson "both" both ++ sideJson "in" incoming ++ sideJson "out" outgoing =
      writtenSides ⟨incoming, outgoing, both⟩ := rfl
  rw [toJson, hsides]
  simp only [writtenFields, Json.members_cons, Json.members_nil, Json.member_some, linksValue?,
    Json.member_leftOutIf, List.isEmpty_iff]
  rfl

/-! ## Reading what was written -/

def withSide (links : Links Node) (direction : Direction) :
    Option (List (String × List Node)) → Links Node
  | none => links
  | some side => links.setSide direction side

theorem withSide_each (incoming outgoing both : Option (List (String × List Node))) :
    withSide (withSide (withSide {} .outgoing outgoing) .incoming incoming) .both both =
      ⟨incoming, outgoing, both⟩ := by
  cases incoming <;> cases outgoing <;> cases both <;> rfl

mutual

/-- A node that is written and read is the node without its vertex ids. -/
theorem ofJson?_toJson (n : Node) : ofJson? n.toJson = some n.cleared := by
  match n with
  | ⟨id, types, category, attributes, ⟨incoming, outgoing, both⟩, vertexId⟩ =>
    have hout := sides?_sideJson .outgoing outgoing []
    have hin := sides?_sideJson .incoming incoming (sideJson Direction.outgoing.text outgoing)
    have hboth := sides?_sideJson .both both
      (sideJson Direction.incoming.text incoming ++ sideJson Direction.outgoing.text outgoing)
    rw [List.append_nil, sides?, Option.map_some] at hout
    have hsides : sides? (writtenSides ⟨incoming, outgoing, both⟩) =
        some ⟨clearedSide incoming, clearedSide outgoing, clearedSide both⟩ := by
      rw [writtenSides, List.append_assoc, hboth, hin, hout, Option.map_some, Option.map_some,
        withSide_each]
    rw [toJson_eq, ofJson?, linksMember?_written, hsides, Json.record?, Option.bind_some,
      ofRecord?_written]
    rfl

theorem sides?_sideJson (direction : Direction) (side : Option (List (String × List Node)))
    (rest : List (String × Json)) : sides? (sideJson direction.text side ++ rest) =
      (sides? rest).map fun links => withSide links direction (clearedSide side) := by
  match side with
  | none =>
    rw [sideJson, List.nil_append, clearedSide]
    exact Option.map_id'.symm
  | some side =>
    rw [sideJson, clearedSide, List.cons_append, List.nil_append, sides?, Direction.ofText?_text,
      relations?, relationEntries?_relationsJson side]
    cases sides? rest <;> rfl

theorem relationEntries?_relationsJson (side : List (String × List Node)) :
    relationEntries? (relationsJson side) = some (clearedRelations side) := by
  match side with
  | [] => rfl
  | (relation, nodes) :: rest =>
    rw [relationsJson, relationEntries?, nodes?, nodeItems?_nodesJson nodes,
      relationEntries?_relationsJson rest]
    rfl

theorem nodeItems?_nodesJson (nodes : List Node) :
    nodeItems? (nodesJson nodes) = some (clearedNodes nodes) := by
  match nodes with
  | [] => rfl
  | n :: rest =>
    rw [nodesJson, nodeItems?, ofJson?_toJson n, nodeItems?_nodesJson rest]
    rfl

end

end Node

end DeviceGraph
