import DeviceGraph.Proofs.Store.Form

/-!
# Values stay out of statements

Two calls are alike when they are the same but for natural keys, property values, the
path of a group above and the bounds of a page. Alike calls submit the same text, so
nothing that a caller may choose freely gets into a statement.
-/

set_option autoImplicit false

namespace DeviceGraph.Store

open Identity

variable {α β : Type} {ids ids' : EdgeIds}

def SameText (a b : Except GraphError (Plan α)) : Prop :=
  ∀ p q, a = .ok p → b = .ok q → p.statement.map (·.text) = q.statement.map (·.text)

theorem SameText.bind {x y : Except GraphError β} {f g : β → Except GraphError (Plan α)}
    (h : ∀ {a b}, x = .ok a → y = .ok b → SameText (f a) (g b)) :
    SameText (x >>= f) (y >>= g) := by
  intro p q hp hq
  obtain ⟨a, ha, hp⟩ := (Checks.bind_eq_ok_iff _ _ _).mp hp
  obtain ⟨b, hb, hq⟩ := (Checks.bind_eq_ok_iff _ _ _).mp hq
  exact h ha hb p q hp hq

theorem SameText.map {x y : Except GraphError (Plan α)} (h : SameText x y) (f : α → β) :
    SameText (Plan.map f <$> x) (Plan.map f <$> y) := by
  intro p q hp hq
  obtain ⟨a, ha, rfl⟩ := (Checks.map_eq_ok_iff _ _ _).mp hp
  obtain ⟨b, hb, rfl⟩ := (Checks.map_eq_ok_iff _ _ _).mp hq
  exact h a b ha hb

theorem SameText.pure {p q : Plan α}
    (h : p.statement.map (·.text) = q.statement.map (·.text)) :
    SameText (.ok p) (.ok q) := by
  intro _ _ hp hq
  cases hp
  cases hq
  exact h

theorem SameText.ofForm {s t : Statement} (h : s.SameForm t)
    {read read' : List Json → Except GraphError α} :
    SameText (.ok ⟨some s, read⟩) (.ok ⟨some t, read'⟩) := .pure (congrArg some h.text_eq)

/-! ## Any entity -/

inductive EntityCall.Alike : {α : Type} → EntityCall α → EntityCall α → Prop
  | labels {id id' : String} (hid : SameCategory id id') (legacy legacy' : Bool) :
    Alike (.labels id legacy) (.labels id' legacy')
  | related {id id' : String} (hid : SameCategory id id') {q q' : RelatedQuery}
    (hq : q.SameForm q') : Alike (.related id q) (.related id' q')
  | attach {entity entity' other other' : String} (he : SameCategory entity entity')
    (ho : SameCategory other other') (relation : String) (direction : Direction) :
    Alike (.attach entity relation direction other) (.attach entity' relation direction other')
  | detach {entity entity' other other' : String} (he : SameCategory entity entity')
    (ho : SameCategory other other') (relation : String) (direction : Direction) :
    Alike (.detach entity relation direction other) (.detach entity' relation direction other')
  | update {id id' : String} (hid : SameCategory id id') {attributes attributes' : Dict Json}
    (ha : Entries.shape attributes.entries = Entries.shape attributes'.entries) :
    Alike (.update id attributes) (.update id' attributes')
  | delete {id id' : String} (hid : SameCategory id id') : Alike (.delete id) (.delete id')

theorem EntityCall.Alike.sameText {c c' : EntityCall α} (h : c.Alike c') :
    SameText (c.plan ids) (c'.plan ids') := by
  cases h with
  | labels hid => exact .bind fun hs ht => .ofForm (labels_form hid hs ht)
  | related hid hq => exact .bind fun hs ht => .ofForm (related_form hid hq hs ht)
  | attach he ho => exact .bind fun hs ht => .ofForm (attach_form he ho hs ht)
  | detach he ho => exact .bind fun hs ht => .ofForm (detach_form he ho hs ht)
  | update hid ha => exact .bind fun hs ht => .pure (update_form hid ha hs ht)
  | delete hid => exact .bind fun hs ht => .ofForm (delete_form hid hs ht)

/-! ## Devices -/

inductive DeviceCall.Alike : {α : Type} → DeviceCall α → DeviceCall α → Prop
  | get (device device' : String) (options : ReadOptions) :
    Alike (.get device options) (.get device' options)
  | getAll (devices devices' : List String) (options : ReadOptions) :
    Alike (.getAll devices options) (.getAll devices' options)
  | labels (device device' : String) (legacy legacy' : Bool) :
    Alike (.labels device legacy) (.labels device' legacy')
  | componentLabels (device device' component component' : String) (legacy legacy' : Bool) :
    Alike (.componentLabels device component legacy) (.componentLabels device' component' legacy')
  | related (device device' : String) {q q' : RelatedQuery} (hq : q.SameForm q') :
    Alike (.related device q) (.related device' q')
  | create {device device' : Node} (hd : device.types = device'.types)
    {groups groups' devices devices' : Relations} (hg : groups.shape = groups'.shape)
    (hr : devices.shape = devices'.shape) {components components' : List Node}
    (hc : components.map (·.types) = components'.map (·.types)) :
    Alike (.create device groups devices components) (.create device' groups' devices' components')
  | createComponent (device device' : String) {component component' : Node}
    (hc : component.types = component'.types) :
    Alike (.createComponent device component) (.createComponent device' component')
  | update {device device' : Node}
    (ha : Entries.shape device.attributes.entries = Entries.shape device'.attributes.entries) :
    Alike (.update device) (.update device')
  | updateComponent (device device' component component' : String)
    {attributes attributes' : Dict Json}
    (ha : Entries.shape attributes.entries = Entries.shape attributes'.entries) :
    Alike (.updateComponent device component attributes)
      (.updateComponent device' component' attributes')
  | delete (device device' : String) : Alike (.delete device) (.delete device')
  | deleteComponent (device device' component component' : String) :
    Alike (.deleteComponent device component) (.deleteComponent device' component')
  | attachToGroup (device device' relation : String) (direction : Direction)
    (group group' : String) :
    Alike (.attachToGroup device relation direction group)
      (.attachToGroup device' relation direction group')
  | detachFromGroup (device device' relation : String) (direction : Direction)
    (group group' : String) :
    Alike (.detachFromGroup device relation direction group)
      (.detachFromGroup device' relation direction group')
  | attachToDevice (device device' relation : String) (direction : Direction)
    (other other' : String) :
    Alike (.attachToDevice device relation direction other)
      (.attachToDevice device' relation direction other')
  | detachFromDevice (device device' relation : String) (direction : Direction)
    (other other' : String) :
    Alike (.detachFromDevice device relation direction other)
      (.detachFromDevice device' relation direction other')

theorem DeviceCall.sameText_all (ids ids' : EdgeIds) (devices devices' : List String)
    (options : ReadOptions) :
    SameText (planAll devices options ids) (planAll devices' options ids') :=
  .bind fun hs ht => .ofForm (Devices.get_form hs ht)

theorem DeviceCall.Alike.sameText {c c' : DeviceCall α} (h : c.Alike c') :
    SameText (c.plan ids) (c'.plan ids') := by
  cases h with
  | get => exact (sameText_all ids ids' _ _ _).map List.head?
  | getAll => exact sameText_all ids ids' _ _ _
  | labels | componentLabels =>
    exact .bind fun hid hid' =>
      (EntityCall.Alike.labels (sameCategory_of_encode hid hid') _ _).sameText
  | related device device' hq =>
    exact .bind fun hid hid' =>
      (EntityCall.Alike.related (sameCategory_of_encode hid hid') hq).sameText
  | create hd hg hr hc => exact .bind fun hs ht => .ofForm (Devices.create_form hd hg hr hc hs ht)
  | createComponent device device' hc =>
    exact .bind fun hs ht => .ofForm (Devices.createComponent_form hc hs ht)
  | update ha =>
    exact .bind fun hid hid' =>
      (EntityCall.Alike.update (sameCategory_of_encode hid hid') ha).sameText
  | updateComponent device device' component component' ha =>
    exact .bind fun hid hid' =>
      (EntityCall.Alike.update (sameCategory_of_encode hid hid') ha).sameText
  | delete => exact .bind fun hs ht => .ofForm (Devices.delete_form hs ht)
  | deleteComponent =>
    exact .bind fun hid hid' =>
      (EntityCall.Alike.delete (sameCategory_of_encode hid hid')).sameText
  | attachToGroup | attachToDevice =>
    exact .bind fun hid hid' => .bind fun ho ho' =>
      (EntityCall.Alike.attach (sameCategory_of_encode hid hid') (sameCategory_of_encode ho ho')
        _ _).sameText
  | detachFromGroup | detachFromDevice =>
    exact .bind fun hid hid' => .bind fun ho ho' =>
      (EntityCall.Alike.detach (sameCategory_of_encode hid hid') (sameCategory_of_encode ho ho')
        _ _).sameText

/-! ## Groups -/

inductive GroupCall.Alike : {α : Type} → GroupCall α → GroupCall α → Prop
  | get (group group' : String) (withRelated : Bool) :
    Alike (.get group withRelated) (.get group' withRelated)
  | getAll (groups groups' : List String) (withRelated : Bool) :
    Alike (.getAll groups withRelated) (.getAll groups' withRelated)
  | labels (group group' : String) (legacy legacy' : Bool) :
    Alike (.labels group legacy) (.labels group' legacy')
  | related (group group' : String) {q q' : RelatedQuery} (hq : q.SameForm q') :
    Alike (.related group q) (.related group' q')
  | ancestors (group group' : String) : Alike (.ancestors group) (.ancestors group')
  /-- A group above is named by an attribute that is a string, except of the root. -/
  | create {group group' : Node} (hg : group.types = group'.types)
    (hp : (Groups.parentPath? group).isSome = (Groups.parentPath? group').isSome)
    {groups groups' : Relations} (hr : groups.shape = groups'.shape) :
    Alike (.create group groups) (.create group' groups')
  | update {group group' : Node}
    (ha : Entries.shape group.attributes.entries = Entries.shape group'.attributes.entries) :
    Alike (.update group) (.update group')
  | delete (group group' : String) : Alike (.delete group) (.delete group')
  | attach (group group' relation other other' : String) :
    Alike (.attach group relation other) (.attach group' relation other')
  | detach (group group' relation other other' : String) :
    Alike (.detach group relation other) (.detach group' relation other')

theorem GroupCall.sameText_all (ids ids' : EdgeIds) (groups groups' : List String)
    (withRelated : Bool) :
    SameText (planAll groups withRelated ids) (planAll groups' withRelated ids') :=
  .bind fun hs ht => .ofForm (Groups.get_form hs ht)

theorem GroupCall.Alike.sameText {c c' : GroupCall α} (h : c.Alike c') :
    SameText (c.plan ids) (c'.plan ids') := by
  cases h with
  | get => exact (sameText_all ids ids' _ _ _).map List.head?
  | getAll => exact sameText_all ids ids' _ _ _
  | labels =>
    exact .bind fun hid hid' =>
      (EntityCall.Alike.labels (sameCategory_of_encode hid hid') _ _).sameText
  | related group group' hq =>
    exact .bind fun hid hid' =>
      (EntityCall.Alike.related (sameCategory_of_encode hid hid') hq).sameText
  | ancestors => exact .bind fun hs ht => .ofForm (Groups.ancestors_form hs ht)
  | create hg hp hr => exact .bind fun hs ht => .ofForm (Groups.create_form hg hp hr hs ht)
  | update ha =>
    exact .bind fun hid hid' =>
      (EntityCall.Alike.update (sameCategory_of_encode hid hid') ha).sameText
  | delete =>
    exact .bind fun hid hid' =>
      (EntityCall.Alike.delete (sameCategory_of_encode hid hid')).sameText
  | attach =>
    exact .bind fun hid hid' => .bind fun ho ho' =>
      (EntityCall.Alike.attach (sameCategory_of_encode hid hid') (sameCategory_of_encode ho ho')
        _ _).sameText
  | detach =>
    exact .bind fun hid hid' => .bind fun ho ho' =>
      (EntityCall.Alike.detach (sameCategory_of_encode hid hid') (sameCategory_of_encode ho ho')
        _ _).sameText

/-! ## All calls -/

inductive Call.Alike : {α : Type} → Call α → Call α → Prop
  | entity {α : Type} {c c' : EntityCall α} (h : c.Alike c') : Alike (.entity c) (.entity c')
  | device {α : Type} {c c' : DeviceCall α} (h : c.Alike c') : Alike (.device c) (.device c')
  | group {α : Type} {c c' : GroupCall α} (h : c.Alike c') : Alike (.group c) (.group c')
  | search {r r' : Search.Request} (h : r.SameForm r') {page page' : Option Page}
    (hp : page.isSome = page'.isSome) : Alike (.search r page) (.search r' page')

theorem Call.Alike.sameText {c c' : Call α} (h : c.Alike c') :
    SameText (c.plan ids) (c'.plan ids') := by
  cases h with
  | entity h => exact h.sameText
  | device h => exact h.sameText
  | group h => exact h.sameText
  | search h hp => exact .bind fun hs ht => .ofForm (h.statement hp hs ht)

/-- Alike calls that succeed have submitted the same texts; for the texts to agree it is
enough that both statements could be made. -/
theorem Call.same_text {c c' : Call α} (h : c.Alike c') :
    (∀ {ids ids' : EdgeIds} {p p' : Plan α}, c.plan ids = .ok p → c'.plan ids' = .ok p' →
      p.statement.map (·.text) = p'.statement.map (·.text)) ∧
    ∀ {e e' : Engine} {a a' : α}, (c.run e).1 = .ok a → (c'.run e').1 = .ok a' →
      ∃ new new' : List Statement, (c.run e).2.submitted = e.submitted ++ new ∧
        (c'.run e').2.submitted = e'.submitted ++ new' ∧
        new.map (·.text) = new'.map (·.text) := by
  refine ⟨fun hp hp' => h.sameText _ _ hp hp', fun {e e' a a'} ha ha' => ?_⟩
  obtain ⟨p, hp⟩ := c.planned.exists_plan ha
  obtain ⟨p', hp'⟩ := c'.planned.exists_plan ha'
  refine ⟨_, _, c.planned.submitted hp, c'.planned.submitted hp', ?_⟩
  have htext := congrArg Option.toList (h.sameText p p' hp hp')
  rwa [Option.toList_map, Option.toList_map] at htext

def busCall (device component group color : String) : Call String :=
  .device (.create
    { id := device, types := ["bus", "device"], category := .device,
      attributes := .ofList [("color", .string color)] }
    { outgoing := .ofList [("in", [group])] } .empty
    [{ id := component, types := ["ecu", "component"], category := .component }])

theorem same_text_bus :
    ((busCall "d" "c" "/eu" "red").run {}).1 = .ok "device___d" ∧
    ((busCall "$1" "\x60\x7d) DETACH DELETE n //" "/" "'").run {}).1 = .ok "device___$1" ∧
    ∃ new new' : List Statement,
      ((busCall "d" "c" "/eu" "red").run {}).2.submitted = new ∧
      ((busCall "$1" "\x60\x7d) DETACH DELETE n //" "/" "'").run {}).2.submitted = new' ∧
      new.map (·.text) = new'.map (·.text) := by
  have halike : (busCall "d" "c" "/eu" "red").Alike
      (busCall "$1" "\x60\x7d) DETACH DELETE n //" "/" "'") := .device
        (.create (by rfl) (by rfl) (by rfl) (by rfl))
  have hred : ((busCall "d" "c" "/eu" "red").run {}).1 = .ok "device___d" := by rfl
  have hodd : ((busCall "$1" "\x60\x7d) DETACH DELETE n //" "/" "'").run {}).1 =
      .ok "device___$1" := by rfl
  obtain ⟨new, new', hnew, hnew', htexts⟩ := (Call.same_text halike).2 hred hodd
  exact ⟨hred, hodd, new, new', hnew, hnew', htexts⟩

end DeviceGraph.Store
