import DeviceGraph.Proofs.Search.Making
import DeviceGraph.Proofs.Store.Call
import DeviceGraph.Proofs.Store.Edge

/-!
# The store submits closed statements

Whatever a call is given, the statement that it plans mentions every value that it
bound, and reads or writes as calls of its kind do. A call that writes has nothing to
read from the answer that could fail. The text that is submitted is the clauses of the
statement, a line each, so that what is known of the clauses is known of the text.
-/

set_option autoImplicit false

namespace DeviceGraph.Store

open Statement

variable {α β : Type} {ids : EdgeIds} {s : Statement}

namespace Plan

structure Sound (access : Access) (p : Plan α) : Prop where
  making : ∀ s ∈ p.statement, ∃ fixed, Making access s fixed []
  final : access = .write → ∀ rows, ∃ a, p.read rows = .ok a

theorem Sound.ask {fixed : List String} (h : Making .read s fixed [])
    (read : List Json → Except GraphError α) : (ask s read).Sound .read where
  making := fun _ ht => Option.some.inj ht ▸ ⟨fixed, h⟩
  final := fun hw => nomatch hw

theorem Sound.tell {fixed : List String} (h : Making .write s fixed []) (a : α) :
    (tell s a).Sound .write where
  making := fun _ ht => Option.some.inj ht ▸ ⟨fixed, h⟩
  final := fun _ _ => ⟨a, rfl⟩

theorem Sound.map {p : Plan α} (h : p.Sound .read) (f : α → β) : (p.map f).Sound .read where
  making := h.making
  final := fun hw => nomatch hw

end Plan

theorem EntityCall.sound (c : EntityCall α) {p : Plan α} (h : c.plan ids = .ok p) :
    p.Sound c.access := by
  cases c with
  | labels vertexId legacy =>
    obtain ⟨s, hs, h⟩ := (Checks.bind_eq_ok_iff _ _ _).mp h
    cases h
    exact .ask (making_labels hs) _
  | related rootId q =>
    obtain ⟨s, hs, h⟩ := (Checks.bind_eq_ok_iff _ _ _).mp h
    obtain ⟨fixed, hmaking⟩ := making_related hs
    cases h
    exact .ask hmaking _
  | attach entity relation direction other =>
    obtain ⟨s, hs, h⟩ := (Checks.bind_eq_ok_iff _ _ _).mp h
    cases h
    exact .tell (making_attach hs) ()
  | detach entity relation direction other =>
    obtain ⟨s, hs, h⟩ := (Checks.bind_eq_ok_iff _ _ _).mp h
    cases h
    exact .tell (making_detach hs) ()
  | update vertexId attributes =>
    obtain ⟨statement, hs, h⟩ := (Checks.bind_eq_ok_iff _ _ _).mp h
    cases h
    cases statement with
    | none => exact ⟨fun _ ht => (nomatch ht), fun _ _ => ⟨(), rfl⟩⟩
    | some s => exact .tell (making_update hs) ()
  | delete vertexId =>
    obtain ⟨s, hs, h⟩ := (Checks.bind_eq_ok_iff _ _ _).mp h
    cases h
    exact .tell (making_delete hs) ()

theorem DeviceCall.sound_all (ids : EdgeIds) {devices : List String} {options : ReadOptions}
    {p : Plan (List Node)} (h : planAll devices options ids = .ok p) : p.Sound .read := by
  obtain ⟨s, hs, h⟩ := (Checks.bind_eq_ok_iff _ _ _).mp h
  obtain ⟨fixed, hmaking⟩ := Devices.making_get hs
  cases h
  exact .ask hmaking _

theorem DeviceCall.sound (c : DeviceCall α) {p : Plan α} (h : c.plan ids = .ok p) :
    p.Sound c.access := by
  cases c with
  | get device options =>
    obtain ⟨q, hq, rfl⟩ := (Checks.map_eq_ok_iff _ _ _).mp h
    exact (sound_all ids hq).map List.head?
  | getAll devices options => exact sound_all ids h
  | labels | componentLabels | related | update | updateComponent | deleteComponent =>
    obtain ⟨id, _, h⟩ := (Checks.bind_eq_ok_iff _ _ _).mp h
    exact EntityCall.sound _ h
  | create device groups devices components =>
    obtain ⟨⟨vertexId, s⟩, hs, h⟩ := (Checks.bind_eq_ok_iff _ _ _).mp h
    cases h
    exact .tell (Devices.making_create hs) vertexId
  | createComponent device component =>
    obtain ⟨⟨vertexId, s⟩, hs, h⟩ := (Checks.bind_eq_ok_iff _ _ _).mp h
    cases h
    exact .tell (Devices.making_createComponent hs) vertexId
  | delete device =>
    obtain ⟨s, hs, h⟩ := (Checks.bind_eq_ok_iff _ _ _).mp h
    cases h
    exact .tell (Devices.making_delete hs) ()
  | attachToGroup | detachFromGroup | attachToDevice | detachFromDevice =>
    obtain ⟨entity, _, h⟩ := (Checks.bind_eq_ok_iff _ _ _).mp h
    obtain ⟨other, _, h⟩ := (Checks.bind_eq_ok_iff _ _ _).mp h
    exact EntityCall.sound _ h

theorem GroupCall.sound_all (ids : EdgeIds) {groups : List String} {withRelated : Bool}
    {p : Plan (List Node)} (h : planAll groups withRelated ids = .ok p) : p.Sound .read := by
  obtain ⟨s, hs, h⟩ := (Checks.bind_eq_ok_iff _ _ _).mp h
  obtain ⟨fixed, hmaking⟩ := Groups.making_get hs
  cases h
  exact .ask hmaking _

theorem GroupCall.sound (c : GroupCall α) {p : Plan α} (h : c.plan ids = .ok p) :
    p.Sound c.access := by
  cases c with
  | get group withRelated =>
    obtain ⟨q, hq, rfl⟩ := (Checks.map_eq_ok_iff _ _ _).mp h
    exact (sound_all ids hq).map List.head?
  | getAll groups withRelated => exact sound_all ids h
  | labels | related | update | delete =>
    obtain ⟨id, _, h⟩ := (Checks.bind_eq_ok_iff _ _ _).mp h
    exact EntityCall.sound _ h
  | ancestors group =>
    obtain ⟨s, hs, h⟩ := (Checks.bind_eq_ok_iff _ _ _).mp h
    cases h
    exact .ask (Groups.making_ancestors hs) _
  | create group groups =>
    obtain ⟨⟨vertexId, s⟩, hs, h⟩ := (Checks.bind_eq_ok_iff _ _ _).mp h
    cases h
    exact .tell (Groups.making_create hs) vertexId
  | attach | detach =>
    obtain ⟨origin, _, h⟩ := (Checks.bind_eq_ok_iff _ _ _).mp h
    obtain ⟨head, _, h⟩ := (Checks.bind_eq_ok_iff _ _ _).mp h
    exact EntityCall.sound _ h

theorem Call.sound (c : Call α) {p : Plan α} (h : c.plan ids = .ok p) : p.Sound c.access := by
  cases c with
  | entity c => exact c.sound h
  | device c => exact c.sound h
  | group c => exact c.sound h
  | search r page =>
    obtain ⟨s, hs, h⟩ := (Checks.bind_eq_ok_iff _ _ _).mp h
    obtain ⟨fixed, hmaking⟩ := Search.Request.making_statement hs
    cases h
    exact .ask hmaking _

theorem Call.submits_making (c : Call α) :
    c.run.Submits fun s => ∃ fixed, Making c.access s fixed [] :=
  c.planned.submits fun _ _ hp => (c.sound hp).making

theorem Call.submits_lines (c : Call α) :
    c.run.Submits fun s => s.text = Text.join "\n" (s.clauses.map Clause.text) :=
  c.submits_making.imp fun _ ⟨_, hmaking⟩ => hmaking.text_eq

/-- A call adds closed statements to those that were submitted. -/
theorem Call.submits_closed (c : Call α) (e : Engine) :
    ∃ new, (c.run e).2.submitted = e.submitted ++ new ∧ ∀ s ∈ new, s.Closed :=
  c.submits_making.imp (fun _ ⟨_, hmaking⟩ => hmaking.closed) e

end DeviceGraph.Store
