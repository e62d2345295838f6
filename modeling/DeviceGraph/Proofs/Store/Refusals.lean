import DeviceGraph.Proofs.Assembly.Visits
import DeviceGraph.Proofs.Search.Obtained
import DeviceGraph.Proofs.Store.Call

/-!
# Why a read fails

A read is refused before the engine is asked only for its input: a key that no vertex id can
be made of, or a name that no statement can hold. Once its statement is made, what the engine
answers is visited, and what is visited decides whether the read fails.
-/

set_option autoImplicit false

namespace DeviceGraph

inductive GraphError.OfInput : GraphError → Prop
  | identity (fault : IdentityFault) : OfInput (.domain (.malformedIdentity fault))
  | identifier (name : String) : OfInput (.invalidIdentifier name)

namespace Identity

def OfForm {α : Type} (x : Except DomainError α) : Prop :=
  ∀ e, x = .error e → ∃ fault, e = .malformedIdentity fault

theorem ofForm_validateKey (key : String) : OfForm (validateKey key) :=
  fun _ h => malformed_of_validateKey h

theorem ofForm_single (category : Category) (key : String) : OfForm (encode category [key]) := by
  intro e h
  rw [encode] at h
  split at h
  · exact ⟨_, (Except.error.inj h).symm⟩
  · rw [validateKeys] at h
    cases hkey : validateKey key with
    | error fault =>
      rw [hkey] at h
      cases h
      exact malformed_of_validateKey hkey
    | ok u =>
      rw [hkey] at h
      cases h

end Identity

def FailsOnInput {α : Type} (x : Except GraphError α) : Prop := ∀ err, x = .error err → err.OfInput

namespace FailsOnInput

variable {α β : Type} {x : Except GraphError α}

theorem ok (a : α) : FailsOnInput (.ok a) := fun _ h => nomatch h

theorem bind {f : α → Except GraphError β} (h : FailsOnInput x) (hf : ∀ a, FailsOnInput (f a)) :
    FailsOnInput (x >>= f) := by
  intro err herr
  cases x with
  | error e =>
    cases herr
    exact h err rfl
  | ok a => exact hf a err herr

theorem mapM {f : α → Except GraphError β} (h : ∀ a, FailsOnInput (f a)) (xs : List α) :
    FailsOnInput (xs.mapM f) := by
  intro err herr
  obtain ⟨a, _, ha⟩ := Checks.error_of_mapM herr
  exact h a err ha

theorem identifier (name : String) : FailsOnInput (Identifier.of name) := by
  intro err h
  rw [Identifier.of] at h
  split at h
  · cases h
    exact .identifier name
  · cases h

theorem lifted {result : Except DomainError α} (h : Identity.OfForm result) :
    FailsOnInput (liftDomain result) := by
  intro err herr
  cases result with
  | ok a => cases herr
  | error e =>
    obtain ⟨fault, rfl⟩ := h e rfl
    cases herr
    exact .identity fault

theorem lifted_mapM {f : α → Except DomainError β} (h : ∀ a, Identity.OfForm (f a))
    (xs : List α) : FailsOnInput (liftDomain (xs.mapM f)) := by
  refine lifted fun e he => ?_
  obtain ⟨a, _, ha⟩ := Checks.error_of_mapM he
  exact h a e ha

end FailsOnInput

open FailsOnInput

/-! ## Statements that read -/

namespace Statement

theorem failsOnInput_vertex (s : Statement) (var vertexId : String) :
    FailsOnInput (s.vertex var vertexId) :=
  (lifted fun _ h => Identity.malformed_of_decode h).bind fun _ => ok _

theorem failsOnInput_labelled (var : String) (label : Option String) :
    FailsOnInput (labelled var label) := by
  cases label with
  | none => exact ok _
  | some label => exact (identifier label).bind fun _ => ok _

theorem failsOnInput_neighbourPattern (direction : Direction) (root : String)
    (relation label : Option String) :
    FailsOnInput (neighbourPattern direction root relation label) :=
  (failsOnInput_labelled "e" relation).bind fun _ =>
    (failsOnInput_labelled "n" label).bind fun _ => ok _

end Statement

namespace Store
open Statement

theorem failsOnInput_filterPredicates (entries : List (String × Json)) (s : Statement) :
    FailsOnInput (filterPredicates s entries) := by
  induction entries generalizing s with
  | nil => exact ok _
  | cons entry rest ih =>
    obtain ⟨key, value⟩ := entry
    refine (identifier key).bind fun _ => ?_
    dsimp only
    split
    · exact (ih s).bind fun _ => ok _
    · exact (ih _).bind fun _ => ok _

theorem failsOnInput_related (rootId : String) (q : RelatedQuery) :
    FailsOnInput (relatedStatement rootId q) :=
  (failsOnInput_vertex _ "root" rootId).bind fun _ =>
    (failsOnInput_neighbourPattern _ _ _ _).bind fun _ =>
      (failsOnInput_filterPredicates _ _).bind fun _ => ok _

theorem Devices.failsOnInput_rootPieces (options : ReadOptions) :
    FailsOnInput (rootPieces options) := by
  rw [rootPieces]
  split
  · exact ok _
  · exact (FailsOnInput.mapM identifier _).bind fun _ => ok _

theorem Devices.failsOnInput_get (devices : List String) (options : ReadOptions) :
    FailsOnInput (getStatement devices options) := by
  refine (lifted_mapM (Identity.ofForm_single .device) devices).bind fun _ =>
    (failsOnInput_rootPieces options).bind fun _ => ?_
  dsimp only
  split <;> exact ok _

theorem Groups.failsOnInput_get (groups : List String) (withRelated : Bool) :
    FailsOnInput (getStatement groups withRelated) := by
  refine (lifted_mapM (Identity.ofForm_single .group) groups).bind fun _ => ?_
  dsimp only
  have hpieces : ∀ direction, FailsOnInput (relatedPieces direction) := fun direction =>
    (failsOnInput_neighbourPattern _ _ _ _).bind fun _ => ok _
  split
  · exact (hpieces .outgoing).bind fun _ => (hpieces .incoming).bind fun _ => ok _
  · exact ok _

theorem Groups.failsOnInput_ancestors (group : String) :
    FailsOnInput (ancestorsStatement group) :=
  (lifted (Identity.ofForm_single .group group)).bind fun _ =>
    (failsOnInput_vertex _ _ _).bind fun _ => ok _

end Store

namespace Search

theorem failsOnInput_hopPieces (tag : String) (hops : List Hop) (i : Nat) :
    FailsOnInput (hopPieces tag i hops) := by
  induction hops generalizing i with
  | nil => exact ok _
  | cons hop rest ih =>
    exact (identifier hop.relation).bind fun _ => (ih (i + 1)).bind fun _ => ok _

theorem failsOnInput_filterCondition (s : Statement) (op : Operator) (f : Filter) :
    FailsOnInput (filterCondition s op f) := by
  refine (identifier f.field).bind fun _ => ?_
  dsimp only
  split
  · exact ok _
  · exact (failsOnInput_hopPieces _ _ _).bind fun _ => ok _

theorem failsOnInput_filterConditions (filters : List (Operator × Filter)) (s : Statement) :
    FailsOnInput (filterConditions s filters) := by
  induction filters generalizing s with
  | nil => exact ok _
  | cons filter rest ih =>
    exact (failsOnInput_filterCondition s filter.1 filter.2).bind fun made =>
      (ih made.1).bind fun _ => ok _

theorem Request.failsOnInput_statement (r : Request) (page : Option Page) :
    FailsOnInput (r.statement page) := by
  have htypes : FailsOnInput (typeConditions r.types) := by
    rw [typeConditions]
    split
    · exact ok _
    · exact (FailsOnInput.mapM identifier _).bind fun _ => ok _
  have hancestor : ∀ s, FailsOnInput (ancestorConditions s r.ancestorPath) := by
    intro s
    cases r.ancestorPath with
    | none => exact ok _
    | some path => exact (lifted (Identity.ofForm_single .group path)).bind fun _ => ok _
  exact htypes.bind fun _ => (hancestor _).bind fun _ =>
    (failsOnInput_filterConditions _ _).bind fun _ => ok _

end Search

/-! ## Plans that read -/

namespace Store
open Assembly Checks

variable {α β γ : Type} {visits : List Json → List Visit}

structure Plan.Visits (p : Plan α) (visits : List Json → List Visit) : Prop where
  asked : ∃ s, p.statement = some s
  follows : ∀ rows, Follows (p.read rows) (visits rows)

theorem Plan.Visits.map {p : Plan α} (h : p.Visits visits) (f : α → β) :
    (p.map f).Visits visits where
  asked := h.asked
  follows := fun rows => (h.follows rows).map f

structure Planning.Visits (plan : Planning α) (visits : List Json → List Visit) : Prop where
  refused : ∀ ids, FailsOnInput (plan ids)
  made : ∀ ids p, plan ids = .ok p → p.Visits visits

namespace Planning.Visits

theorem ask {result : Except GraphError Statement} {read : List Json → Except GraphError α}
    (hs : FailsOnInput result) (hr : ∀ rows, Follows (read rows) (visits rows)) :
    Planning.Visits (fun _ => do return .ask (← result) read) visits where
  refused := fun _ => hs.bind fun _ => ok _
  made := fun _ p hp => by
    obtain ⟨s, _, hp⟩ := (bind_eq_ok_iff _ _ _).mp hp
    obtain rfl := (pure_eq_ok_iff _ _).mp hp
    exact ⟨⟨s, rfl⟩, hr⟩

theorem bind {result : Except GraphError γ} {plan : γ → Planning α} (hr : FailsOnInput result)
    (h : ∀ c, (plan c).Visits visits) :
    Planning.Visits (fun ids => result >>= (plan · ids)) visits where
  refused := fun ids => hr.bind fun c => (h c).refused ids
  made := fun ids p hp => by
    obtain ⟨c, _, hp⟩ := (bind_eq_ok_iff _ _ _).mp hp
    exact (h c).made ids p hp

theorem map {plan : Planning α} (h : plan.Visits visits) (f : α → β) :
    Planning.Visits (fun ids => Plan.map f <$> plan ids) visits where
  refused := fun ids err herr => h.refused ids err ((map_eq_error_iff _ _ _).mp herr)
  made := fun ids p hp => by
    obtain ⟨first, hfirst, rfl⟩ := (map_eq_ok_iff _ _ _).mp hp
    exact (h.made ids first hfirst).map f

end Planning.Visits

/-- Of the rows around a root only the first is read. -/
def relatedVisits (rows : List Json) : List Visit := rows.head?.toList.flatMap projectionVisits

theorem EntityCall.visits_related (rootId : String) (q : RelatedQuery) :
    (EntityCall.related rootId q).plan.Visits relatedVisits := by
  refine .ask (failsOnInput_related rootId q) fun rows => ?_
  cases rows with
  | nil => exact .ok none
  | cons first rest =>
    rw [relatedVisits, List.head?_cons, Option.toList_some, List.flatMap_singleton]
    exact (follows_projectionOfRow first).map some

namespace DeviceCall

theorem visits_all (devices : List String) (options : ReadOptions) :
    (planAll devices options).Visits fun rows => rows.flatMap projectionVisits :=
  .ask (Devices.failsOnInput_get devices options) (Follows.mapM follows_projectionOfRow)

theorem visits_related (device : String) (q : RelatedQuery) :
    (related device q).plan.Visits relatedVisits :=
  .bind (lifted (Identity.ofForm_single .device device)) fun id =>
    EntityCall.visits_related id q

end DeviceCall

namespace GroupCall

theorem visits_all (groups : List String) (withRelated : Bool) :
    (planAll groups withRelated).Visits taggedVisits :=
  .ask (Groups.failsOnInput_get groups withRelated) follows_tagged

theorem visits_related (group : String) (q : RelatedQuery) :
    (related group q).plan.Visits relatedVisits :=
  .bind (lifted (Identity.ofForm_single .group group)) fun id =>
    EntityCall.visits_related id q

theorem visits_ancestors (group : String) :
    (ancestors group).plan.Visits fun rows => rows.flatMap rowVisits :=
  .ask (Groups.failsOnInput_ancestors group) (Follows.mapM follows_nodeOfRow)

end GroupCall

/-- A search that only counts visits nothing. -/
def searchVisits (summarize : Bool) (rows : List Json) : List Visit :=
  if summarize then [] else rows.flatMap rowVisits

theorem Call.visits_search (r : Search.Request) (page : Option Page) :
    (Call.search r page).plan.Visits (searchVisits r.summarize) := by
  refine .ask (r.failsOnInput_statement page) fun rows => ?_
  rw [readResults, searchVisits]
  cases r.summarize with
  | true => exact .ok _
  | false => exact (Follows.mapM follows_nodeOfRow rows).map _

end Store

end DeviceGraph
