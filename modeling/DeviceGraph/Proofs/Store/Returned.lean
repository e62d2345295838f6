import DeviceGraph.Proofs.Assembly.WellFormed
import DeviceGraph.Proofs.Store.Call

/-!
# What calls return

Whatever the engine answers, a call that succeeds returns well-formed nodes which
link to well-formed nodes without links. This is seen on the plan of the call: only
what a plan makes of the rows counts, not which statement it asks.
-/

set_option autoImplicit false

namespace DeviceGraph.Store
open Checks

variable {α β γ : Type}

def Planning.Yields (plan : Planning α) (p : α → Prop) : Prop :=
  ∀ ids made, plan ids = .ok made → ∀ rows a, made.read rows = .ok a → p a

namespace Planning.Yields

variable {p : α → Prop} {q : β → Prop}

theorem of_forall {plan : Planning α} (h : ∀ a, p a) : plan.Yields p := fun _ _ _ _ a _ => h a

theorem bind {result : Except GraphError γ} {plan : γ → Planning α}
    (h : ∀ c, (plan c).Yields p) : Planning.Yields (fun ids => result >>= (plan · ids)) p := by
  intro ids made hm
  obtain ⟨c, _, hm⟩ := (bind_eq_ok_iff _ _ _).mp hm
  exact h c ids made hm

theorem ask {result : Except GraphError Statement} {read : List Json → Except GraphError α}
    (h : ∀ rows a, read rows = .ok a → p a) :
    Planning.Yields (fun _ => do return .ask (← result) read) p := by
  intro ids made hm
  obtain ⟨s, _, hm⟩ := (bind_eq_ok_iff _ _ _).mp hm
  exact (pure_eq_ok_iff _ _).mp hm ▸ h

theorem map {plan : Planning α} (h : plan.Yields p) {f : α → β} (hf : ∀ a, p a → q (f a)) :
    Planning.Yields (fun ids => Plan.map f <$> plan ids) q := by
  intro ids made hm rows b hb
  obtain ⟨first, hfirst, rfl⟩ := (map_eq_ok_iff _ _ _).mp hm
  obtain ⟨a, ha, rfl⟩ := (map_eq_ok_iff _ _ _).mp hb
  exact hf a (h ids first hfirst rows a ha)

end Planning.Yields

/-- What an operation returns was made of some rows. -/
theorem Planned.of_yields {x : Session GraphError α} {plan : Planning α} {p : α → Prop}
    (h : Planned x plan) (hy : plan.Yields p) {e : Engine} {a : α} (ha : (x e).1 = .ok a) :
    p a := by
  obtain ⟨made, hm⟩ := h.exists_plan ha
  have hread : ∃ rows, made.read rows = .ok a := by
    rw [h.result e made hm, Plan.result] at ha
    cases hs : made.statement with
    | none => exact ⟨[], by rwa [hs] at ha⟩
    | some s =>
      rw [hs] at ha
      obtain ⟨rows, _, hr⟩ := (bind_eq_ok_iff _ _ _).mp ha
      exact ⟨rows, hr⟩
  obtain ⟨rows, hr⟩ := hread
  exact hy _ made hm rows a hr

/-! ## The nodes of a result -/

namespace EntityCall

def nodes : EntityCall α → α → List Node
  | related .., n => n.toList
  | _, _ => []

theorem yields_rooted (c : EntityCall α) : c.plan.Yields fun a => ∀ n ∈ c.nodes a, n.Rooted := by
  cases c with
  | related rootId q =>
    refine .ask fun rows a ha => ?_
    cases rows with
    | nil =>
      obtain rfl := Except.ok.inj ha
      exact fun n hm => absurd hm List.not_mem_nil
    | cons first rest =>
      obtain ⟨n, hn, rfl⟩ := (map_eq_ok_iff _ _ _).mp ha
      exact List.forall_mem_singleton.mpr (Assembly.projectionOfRow_rooted hn)
  | _ => exact .of_forall fun a n hm => absurd hm List.not_mem_nil

end EntityCall

theorem rooted_of_head? {ns : List Node} (h : ∀ n ∈ ns, n.Rooted) :
    ∀ n ∈ ns.head?.toList, n.Rooted :=
  fun n hm => h n (List.mem_of_head? (Option.mem_toList.mp hm))

namespace DeviceCall

def nodes : DeviceCall α → α → List Node
  | get .., n => n.toList
  | getAll .., ns => ns
  | related .., n => n.toList
  | _, _ => []

theorem yields_rooted_all (devices : List String) (options : ReadOptions) :
    (planAll devices options).Yields fun ns => ∀ n ∈ ns, n.Rooted :=
  .ask fun _ _ hm => forall_mem_of_mapM (fun _ _ => Assembly.projectionOfRow_rooted) hm

theorem yields_rooted (c : DeviceCall α) : c.plan.Yields fun a => ∀ n ∈ c.nodes a, n.Rooted := by
  cases c with
  | get device options =>
    exact (yields_rooted_all [device] options).map (f := List.head?) fun ns => rooted_of_head?
  | getAll devices options => exact yields_rooted_all devices options
  | related device q => exact .bind fun id => (EntityCall.related id q).yields_rooted
  | _ => exact .of_forall fun a n hm => absurd hm List.not_mem_nil

end DeviceCall

namespace GroupCall

def nodes : GroupCall α → α → List Node
  | get .., n => n.toList
  | getAll .., ns => ns
  | related .., n => n.toList
  | ancestors .., ns => ns
  | _, _ => []

theorem yields_rooted_all (groups : List String) (withRelated : Bool) :
    (planAll groups withRelated).Yields fun ns => ∀ n ∈ ns, n.Rooted := by
  refine .ask fun answers ns hn => ?_
  obtain ⟨rows, _, hn⟩ := (bind_eq_ok_iff _ _ _).mp hn
  exact Assembly.nodes_rooted hn

theorem yields_rooted (c : GroupCall α) : c.plan.Yields fun a => ∀ n ∈ c.nodes a, n.Rooted := by
  cases c with
  | get group withRelated =>
    exact (yields_rooted_all [group] withRelated).map (f := List.head?) fun ns => rooted_of_head?
  | getAll groups withRelated => exact yields_rooted_all groups withRelated
  | related group q => exact .bind fun id => (EntityCall.related id q).yields_rooted
  | ancestors group =>
    exact .ask fun _ _ hm => forall_mem_of_mapM (fun _ _ => Assembly.nodeOfRow_rooted) hm
  | _ => exact .of_forall fun a n hm => absurd hm List.not_mem_nil

end GroupCall

def resultNodes : Search.Results → List Node
  | .summary _ => []
  | .found ns => ns

namespace Call

def nodes : Call α → α → List Node
  | entity c, a => c.nodes a
  | device c, a => c.nodes a
  | group c, a => c.nodes a
  | search .., results => resultNodes results

theorem rooted_of_readResults {summarize : Bool} {rows : List Json} {results : Search.Results}
    (h : readResults summarize rows = .ok results) : ∀ n ∈ resultNodes results, n.Rooted := by
  cases summarize with
  | true =>
    obtain rfl := Except.ok.inj h
    exact fun n hm => absurd hm List.not_mem_nil
  | false =>
    obtain ⟨ns, hns, rfl⟩ := (map_eq_ok_iff _ _ _).mp h
    exact forall_mem_of_mapM (fun _ _ => Assembly.nodeOfRow_rooted) hns

theorem yields_rooted (c : Call α) : c.plan.Yields fun a => ∀ n ∈ c.nodes a, n.Rooted := by
  cases c with
  | entity c => exact c.yields_rooted
  | device c => exact c.yields_rooted
  | group c => exact c.yields_rooted
  | search r page => exact .ask fun _ _ => rooted_of_readResults

/-- Every node that a call returns is well formed and links to well-formed nodes
without links, whatever the engine had to say. -/
theorem nodes_well_formed {c : Call α} {e e' : Engine} {a : α} (h : c.run e = (.ok a, e')) :
    ∀ n ∈ c.nodes a,
      n.WellFormed ∧ ∀ other ∈ n.links.targets, other.WellFormed ∧ other.links = {} := by
  intro n hm
  have hn := c.planned.of_yields c.yields_rooted (congrArg Prod.fst h) n hm
  refine ⟨hn.wellFormed, fun other ho => ?_⟩
  have hother := hn.linked other ho
  exact ⟨hother.wellFormed, hother.unlinked⟩

/-- A row for a bus in a depot. Cut from the left, the chain of the bus ends in a type
that begins with a colon and names no category. -/
def busRow : Json :=
  .object [
    ("object", .object [("id", .string "device___bus"), ("label", .string "bus::device:::group"),
      ("plate", .array [.string "42"])]),
    ("pathsOut", .array [.array [.string "e", .string "group___/north"]]),
    ("Es", .array [.array [.string "e", .string "parked_in", .string "group___/north"]]),
    ("Vs", .array [.object [("id", .string "group___/north"), ("label", .string "depot::group")]])]

theorem nodes_well_formed_bus : ∃ n e',
    (Call.device (.get "bus" {})).run { replies := [.rows [busRow]] } = (.ok (some n), e') ∧
      n.types = ["bus", "device", ":group"] ∧ n.category = .device ∧
      n.links.targets.map (·.id) = ["/north"] ∧
      n.WellFormed ∧ ∀ other ∈ n.links.targets, other.WellFormed ∧ other.links = {} := by
  obtain ⟨n, e', hrun, htypes, hcategory, htargets⟩ : ∃ n e',
      (Call.device (.get "bus" {})).run { replies := [.rows [busRow]] } = (.ok (some n), e') ∧
        n.types = ["bus", "device", ":group"] ∧ n.category = .device ∧
        n.links.targets.map (·.id) = ["/north"] :=
    ⟨_, _, rfl, by decide, by decide, by decide⟩
  exact ⟨n, e', hrun, htypes, hcategory, htargets, nodes_well_formed hrun n List.mem_cons_self⟩

end Call

end DeviceGraph.Store
