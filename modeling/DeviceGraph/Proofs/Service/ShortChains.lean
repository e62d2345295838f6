import DeviceGraph.Proofs.Operation
import DeviceGraph.Proofs.Store.Refusals

/-!
# Short type chains in reads

A read that runs into a vertex with a short type chain fails with an error that names the
vertex and its types, under the wrappers of the layers that it came through. Asking for
invalid labels looks through the wrapper of the graph, and not through the one of a search.
So the reads of devices and groups report a short chain as what it is, exactly when they fail
at one, and searches never do.
-/

set_option autoImplicit false

namespace DeviceGraph

def GraphError.cause? : GraphError → Option DomainError
  | domain error => some error
  | _ => none

def SearchError.cause? : SearchError → Option DomainError
  | graph error => error.cause?
  | _ => none

def ServiceError.cause? : ServiceError → Option DomainError
  | domain error => some error
  | graph error => error.cause?
  | search error => error.cause?
  | _ => none

theorem GraphError.isInvalidLabels_iff (error : GraphError) :
    error.isInvalidLabels = true ↔ ∃ id types, error = .domain (.invalidLabels id types) := by
  constructor
  · intro h
    unfold isInvalidLabels at h
    split at h
    · next id types => exact ⟨id, types, rfl⟩
    · cases h
  · rintro ⟨id, types, rfl⟩
    rfl

theorem GraphError.OfInput.not_isInvalidLabels {error : GraphError} (h : error.OfInput) :
    error.isInvalidLabels = false := by
  cases h <;> rfl

namespace Service
open Store Assembly Checks

variable {α β : Type}

/-! ## Actions that ask once -/

/-- An action that is refused without a word to the engine, and for something else than a
short chain, or that asks once and fails as the visits of the answer do. -/
def AsksOnce (x : Session ServiceError α) (wrap : GraphError → ServiceError)
    (visits : List Json → List Visit) : Prop :=
  ∀ e, (∃ err, err.isInvalidLabels = false ∧ x e = (.error err, e)) ∨
    ∃ s, (x e).2.submitted = e.submitted ++ [s] ∧
      (fun _ => ()) <$> (x e).1 =
        (Reply.answer e.replies.head? >>= fun rows => forM (visits rows) Visit.check).mapError wrap

namespace AsksOnce

variable {wrap : GraphError → ServiceError} {visits : List Json → List Visit}

theorem of_planned {x : Session GraphError α} {plan : Planning α} (h : Planned x plan)
    (hv : plan.Visits visits) (hw : ∀ err : GraphError, err.OfInput →
      (wrap err).isInvalidLabels = false) : AsksOnce (x.mapError wrap) wrap visits := by
  intro e
  have hrun : x.mapError wrap e = ((x e).1.mapError wrap, (x e).2) := rfl
  rw [hrun]
  cases hp : plan e.edgeIds with
  | error err =>
    rw [h.refused e err hp]
    exact .inl ⟨wrap err, hw err (hv.refused _ err hp), rfl⟩
  | ok p =>
    have hmade := hv.made _ p hp
    obtain ⟨s, hs⟩ := hmade.asked
    refine .inr ⟨s, (h.submitted hp).trans (by rw [hs]; rfl), ?_⟩
    rw [h.result e p hp, Plan.result, hs]
    dsimp only
    cases Reply.answer e.replies.head? with
    | error err => rfl
    | ok rows =>
      have hread : (fun _ => ()) <$> p.read rows = forM (visits rows) Visit.check :=
        hmade.follows rows
      show (fun _ => ()) <$> (p.read rows).mapError wrap = (forM (visits rows) Visit.check).mapError
        wrap
      rw [← hread]
      cases p.read rows <;> rfl

theorem inStore {x : Session GraphError α} {plan : Planning α} (h : Planned x plan)
    (hv : plan.Visits visits) : AsksOnce (Service.inStore x) .graph visits :=
  of_planned h hv fun _ herr => herr.not_isInvalidLabels

theorem checked {result : Except ServiceError β} {f : β → Session ServiceError α}
    (hr : ∀ err, result = .error err → err.isInvalidLabels = false)
    (h : ∀ b, result = .ok b → AsksOnce (f b) wrap visits) :
    AsksOnce (Session.ofExcept result >>= f) wrap visits := by
  intro e
  cases result with
  | error err => exact .inl ⟨err, hr err rfl, rfl⟩
  | ok b => exact h b rfl e

theorem map {x : Session ServiceError α} (h : AsksOnce x wrap visits) (f : α → β) :
    AsksOnce (x >>= fun a => pure (f a)) wrap visits := by
  intro e
  rw [Session.bind_apply]
  rcases h e with ⟨err, herr, hx⟩ | hasked
  · rw [hx]
    exact .inl ⟨err, herr, rfl⟩
  · refine .inr ?_
    rcases hx : x e with ⟨_ | _, e₁⟩ <;> rwa [hx] at hasked

/-- An error that tells of invalid labels comes out of the answer. -/
theorem error_of_isInvalidLabels {x : Session ServiceError α} (h : AsksOnce x wrap visits)
    {e : Engine} {err : ServiceError} (herr : (x e).1 = .error err)
    (hi : err.isInvalidLabels = true) :
    ∃ s, (x e).2.submitted = e.submitted ++ [s] ∧ ∃ error, err = wrap error ∧
      (Reply.answer e.replies.head? >>= fun rows => forM (visits rows) Visit.check) =
        .error error := by
  rcases h e with ⟨other, hother, hx⟩ | ⟨s, hs, hresult⟩
  · rw [hx] at herr
    cases herr
    rw [hi] at hother
    cases hother
  · rw [herr] at hresult
    obtain ⟨error, hfails, hwrap⟩ := (mapError_eq_error_iff _ _ _).mp hresult.symm
    exact ⟨s, hs, error, hwrap.symm, hfails⟩

/-- A key or several are checked, and then the store is asked. -/
theorem keyed {result : Except DomainError Unit} {x : Session ServiceError α}
    (hr : Identity.OfForm result) (h : AsksOnce x wrap visits) (f : α → β) :
    AsksOnce (Session.ofExcept (check result) >>= fun _ => x >>= fun a => pure (f a)) wrap
      visits := by
  refine checked (fun err herr => ?_) fun _ _ => h.map f
  cases result with
  | ok u => cases herr
  | error e =>
    obtain ⟨fault, rfl⟩ := hr e rfl
    cases herr
    rfl

end AsksOnce

theorem ofForm_validateKeys (keys : List String) :
    Identity.OfForm (forM keys Identity.validateKey) := by
  intro e h
  obtain ⟨_, key, _, _, _, hkey⟩ := (forM_eq_error_iff _ _ _).mp h
  exact Identity.ofForm_validateKey key e hkey

/-! ## What is visited -/

namespace DeviceCall

def visits : DeviceCall α → List Json → List Visit
  | get .., rows | getAll .., rows => rows.flatMap projectionVisits
  | relatedGroups .., rows | relatedDevices .., rows => relatedVisits rows
  | _, _ => []

theorem asks (c : DeviceCall α) (h : c.access = .read) : AsksOnce c.run .graph c.visits := by
  cases c with
  | get device options =>
    exact .keyed (Identity.ofForm_validateKey device)
      (.inStore (Store.DeviceCall.get device options).planned
        ((Store.DeviceCall.visits_all [device] options).map List.head?)) _
  | getAll devices options =>
    exact .keyed (ofForm_validateKeys devices)
      (.inStore (Store.DeviceCall.getAll devices options).planned
        (Store.DeviceCall.visits_all devices options)) _
  | relatedGroups device q | relatedDevices device q =>
    exact .keyed (Identity.ofForm_validateKey device)
      (.inStore (Store.DeviceCall.related device q).planned
        (Store.DeviceCall.visits_related device q)) _
  | _ => cases h

end DeviceCall

namespace GroupCall

def visits : GroupCall α → List Json → List Visit
  | get .., rows | getAll .., rows => taggedVisits rows
  | ancestors .., rows => rows.flatMap rowVisits
  | relatedGroups .., rows | relatedDevices .., rows => relatedVisits rows
  | _, _ => []

theorem asks (c : GroupCall α) (h : c.access = .read) : AsksOnce c.run .graph c.visits := by
  cases c with
  | get group =>
    exact .keyed (Identity.ofForm_validateKey group)
      (.inStore (Store.GroupCall.get group true).planned
        ((Store.GroupCall.visits_all [group] true).map List.head?)) _
  | getAll groups =>
    exact .keyed (ofForm_validateKeys groups)
      (.inStore (Store.GroupCall.getAll groups true).planned
        (Store.GroupCall.visits_all groups true)) _
  | ancestors group =>
    exact .keyed (Identity.ofForm_validateKey group)
      (.inStore (Store.GroupCall.ancestors group).planned
        (Store.GroupCall.visits_ancestors group)) _
  | relatedGroups group q | relatedDevices group q =>
    exact .keyed (Identity.ofForm_validateKey group)
      (.inStore (Store.GroupCall.related group q).planned
        (Store.GroupCall.visits_related group q)) _
  | _ => cases h

end GroupCall

namespace Call

def isSearch : Call α → Bool
  | device _ | group _ => false
  | search .. | searchQueryString .. | searchValueMap .. => true

def wrap (c : Call α) (error : GraphError) : ServiceError :=
  if c.isSearch then .search (.graph error) else .graph error

def requestedVisits (result : Except SearchError DeviceGraph.Search.Request) (rows : List Json) :
    List Visit :=
  match result with
  | .ok r => searchVisits r.summarize rows
  | .error _ => []

def visits : Call α → List Json → List Visit
  | device c => c.visits
  | group c => c.visits
  | search r _ => searchVisits r.summarize
  | searchQueryString query _ =>
    requestedVisits (DeviceGraph.Search.Request.ofQueryString query)
  | searchValueMap parameters _ =>
    requestedVisits (DeviceGraph.Search.Request.ofValueMap parameters)

theorem asks_search (r : DeviceGraph.Search.Request) (page : Option Page) :
    AsksOnce (Search.run r page) (fun error => .search (.graph error)) (searchVisits r.summarize) :=
  .of_planned (Store.Call.search r page).planned (Store.Call.visits_search r page) fun _ _ => rfl

theorem asks_requested (result : Except SearchError DeviceGraph.Search.Request)
    (page : Option Page) :
    AsksOnce (Session.ofExcept (result.mapError .search) >>= fun r => Search.run r page)
      (fun error => .search (.graph error)) (requestedVisits result) := by
  cases result with
  | error e => exact .checked (fun err herr => by cases herr; rfl) fun _ hr => nomatch hr
  | ok r =>
    refine .checked (fun _ herr => nomatch herr) fun made hr => ?_
    cases hr
    exact asks_search r page

theorem asks (c : Call α) (h : c.access = .read) : AsksOnce c.run c.wrap c.visits := by
  cases c with
  | device c => exact c.asks h
  | group c => exact c.asks h
  | search r page => exact asks_search r page
  | searchQueryString query page => exact asks_requested _ page
  | searchValueMap parameters page => exact asks_requested _ page

theorem cause?_wrap (c : Call α) (error : GraphError) : (c.wrap error).cause? = error.cause? := by
  rw [wrap]
  cases c.isSearch <;> rfl

theorem isInvalidLabels_wrap (c : Call α) (error : GraphError) :
    (c.wrap error).isInvalidLabels = (!c.isSearch && error.isInvalidLabels) := by
  rw [wrap]
  cases c.isSearch <;> rfl

/-! ## Failing at a vertex -/

structure FailsAt (c : Call α) (e : Engine) (properties : Properties) : Prop where
  asked : ∃ s, (c.run e).2.submitted = e.submitted ++ [s]
  first : ∃ rows before after, Reply.answer e.replies.head? = .ok rows ∧
    c.visits rows = before ++ .vertex properties :: after ∧
    ∀ visit ∈ before, visit.check = .ok ()

theorem run_of_failsAt {c : Call α} {e : Engine} {properties : Properties} {error : GraphError}
    (hc : c.access = .read) (h : c.FailsAt e properties) (hn : node properties = .error error) :
    (c.run e).1 = .error (c.wrap error) := by
  obtain ⟨s, hs⟩ := h.asked
  obtain ⟨rows, before, after, hanswer, hvisits, hbefore⟩ := h.first
  rcases c.asks hc e with ⟨err, _, hrun⟩ | ⟨_, _, hresult⟩
  · rw [hrun] at hs
    simp at hs
  · have hcheck : forM (c.visits rows) Visit.check = .error error :=
      (forM_eq_error_iff _ _ _).mpr ⟨before, .vertex properties, after, hvisits, hbefore,
        (map_eq_error_iff _ _ _).mpr hn⟩
    rw [hanswer] at hresult
    have hfails : (fun _ => ()) <$> (c.run e).1 =
        (forM (c.visits rows) Visit.check).mapError c.wrap := hresult
    rw [hcheck] at hfails
    exact (map_eq_error_iff _ _ _).mp hfails

theorem failsAt_of_isInvalidLabels {c : Call α} {e : Engine} {err : ServiceError}
    (hc : c.access = .read) (h : (c.run e).1 = .error err) (hi : err.isInvalidLabels = true) :
    ∃ properties id, c.FailsAt e properties ∧ ShortChain properties id := by
  obtain ⟨s, hs, error, rfl, hfails⟩ := (c.asks hc).error_of_isInvalidLabels h hi
  rw [isInvalidLabels_wrap, Bool.and_eq_true] at hi
  obtain ⟨id, types, rfl⟩ := (GraphError.isInvalidLabels_iff error).mp hi.2
  cases hanswer : Reply.answer e.replies.head? with
  | error other =>
    -- the engine itself knows nothing of types
    obtain ⟨reason, _, rfl⟩ := (Reply.answer_eq_error_iff _ _).mp hanswer
    rw [hanswer] at hfails
    cases hfails
  | ok rows =>
    rw [hanswer] at hfails
    obtain ⟨before, visit, after, hvisits, hbefore, hvisit⟩ :=
      (forM_eq_error_iff _ (c.visits rows) _).mp hfails
    obtain ⟨properties, rfl, hshort, _⟩ := (visit.check_eq_invalidLabels_iff id types).mp hvisit
    exact ⟨properties, id, ⟨⟨s, hs⟩, rows, before, after, hanswer, hvisits, hbefore⟩, hshort⟩

/-- A read that fails at a vertex with a short chain returns the error that names its id and
types, which asking for invalid labels sees exactly when the read is no search. It sees
nothing else in the error of a read. -/
theorem short_chain_reported_iff (c : Call α) (hc : c.access = .read) (e : Engine) :
    (∀ properties id, c.FailsAt e properties → ShortChain properties id →
      ∃ err, (c.run e).1 = .error err ∧
        err.cause? = some (.invalidLabels id (typesOf properties)) ∧
        (err.isInvalidLabels = true ↔ c.isSearch = false)) ∧
    ∀ err, (c.run e).1 = .error err → err.isInvalidLabels = true →
      ∃ properties id, c.FailsAt e properties ∧ ShortChain properties id := by
  refine ⟨fun properties id hfails hshort => ?_, fun err => failsAt_of_isInvalidLabels hc⟩
  refine ⟨_, run_of_failsAt hc hfails (node_of_shortChain hshort), cause?_wrap c _, ?_⟩
  rw [isInvalidLabels_wrap, GraphError.isInvalidLabels, Bool.and_true, Bool.not_eq_true']

def depotRows : List Json :=
  [.object [("kind", .string "related"), ("owner", .string "group___/north"),
      ("dir", .string "out"),
      ("e", .array [.string "e", .string "serves", .string "group___/depot"]),
      ("vProps", .object [("id", .string "group___/depot"), ("label", .string "depot")])],
    .object [("kind", .string "vertex"), ("props", .object
      [("id", .string "group___/north"), ("label", .string "region::group")])]]

theorem short_chain_reported_depot : ∃ err,
    ((Call.group (.getAll ["/north"])).run { replies := [.rows depotRows] }).1 = .error err ∧
      err.cause? = some (.invalidLabels "group___/depot" ["depot"]) ∧
      err.isInvalidLabels = true := by
  obtain ⟨depot, hfails, hshort, htypes⟩ : ∃ depot,
      (Call.group (.getAll ["/north"])).FailsAt { replies := [.rows depotRows] } depot ∧
        ShortChain depot "group___/depot" ∧ typesOf depot = ["depot"] := by
    refine ⟨_, ⟨⟨_, rfl⟩, depotRows, [_], [], rfl, rfl, ?_⟩, ⟨rfl, ⟨_, _, rfl⟩, ?_⟩, ?_⟩
    · exact List.forall_mem_singleton.mpr rfl
    · decide
    · decide
  obtain ⟨err, hrun, hcause, hreported⟩ :=
    (short_chain_reported_iff (.group (.getAll ["/north"])) rfl _).1 depot _ hfails hshort
  exact ⟨err, hrun, htypes ▸ hcause, hreported.mpr rfl⟩

def busSearch : Call DeviceGraph.Search.Results :=
  .search { types := ["bus"], ancestorPath := none, summarize := false, filters := fun _ => [] }
    none

def busEngine : Engine :=
  { replies := [.rows [.object [("id", .string "device___d"), ("label", .string "bus")]]] }

/-- A search that fails at a short chain is not seen to have met invalid labels. -/
theorem short_chain_hidden_in_search : ∃ bus err,
    busSearch.FailsAt busEngine bus ∧ ShortChain bus "device___d" ∧
      (busSearch.run busEngine).1 = .error err ∧
      err.cause? = some (.invalidLabels "device___d" ["bus"]) ∧
      err.isInvalidLabels = false := by
  refine ⟨_, _, ⟨⟨_, rfl⟩, _, [], [], rfl, rfl, ?_⟩, ⟨rfl, ⟨_, _, rfl⟩, ?_⟩, rfl, ?_, ?_⟩
  · exact fun _ hm => absurd hm List.not_mem_nil
  · decide
  · rfl
  · rfl

end Call

end Service

end DeviceGraph
