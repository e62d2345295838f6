import DeviceGraph.Proofs.Search.Conditions
import DeviceGraph.Proofs.Search.QueryString

/-!
# Requests that can come about

A request is built from a draft, read from a query string or read from a map of
parameters. All three ways end in the same checks, so each leaves a valid request,
and all that can fail when it is compiled is the path of the group above.
-/

set_option autoImplicit false

namespace DeviceGraph

namespace Identity

theorem groupId_of_valid {path : String} (h : validateKey path = .ok ()) :
    ∃ id, groupId path = .ok id := by
  refine ⟨idPrefix .group ++ separator ++ path, ?_⟩
  rw [groupId, encode, if_neg (by simp [keyCount]), validateKeys, h]
  rfl

theorem groupId_of_error {path : String} {e : DomainError} (h : validateKey path = .error e) :
    groupId path = .error e := by
  rw [groupId, encode, if_neg (by simp [keyCount]), validateKeys, h]
  rfl

theorem malformed_of_validateKey {key : String} {e : DomainError}
    (h : validateKey key = .error e) : ∃ fault, e = .malformedIdentity fault := by
  unfold validateKey at h
  split at h
  · exact ⟨_, (Except.error.inj h).symm⟩
  · split at h
    · exact ⟨_, (Except.error.inj h).symm⟩
    · cases h

end Identity

namespace Search.Request

/-- The ways to a request. A draft is what builder calls leave, in any order and number. -/
inductive Obtained : Request → Prop
  | built {d : Draft} {r : Request} (h : d.build = .ok r) : Obtained r
  | queried {query : String} {r : Request} (h : ofQueryString query = .ok r) : Obtained r
  | mapped {parameters : Dict (List String)} {r : Request} (h : ofValueMap parameters = .ok r) :
    Obtained r

theorem Obtained.exists_draft {r : Request} (h : r.Obtained) : ∃ d : Draft, d.build = .ok r := by
  cases h with
  | built h => exact ⟨_, h⟩
  | queried h =>
    obtain ⟨d, _, hd⟩ := (Checks.bind_eq_ok_iff _ _ _).mp h
    exact ⟨d, hd⟩
  | mapped h =>
    obtain ⟨d, _, hd⟩ := (Checks.bind_eq_ok_iff _ _ _).mp h
    exact ⟨d, hd⟩

/-- A valid request is compiled unless the path of the group above is no key. -/
theorem statement_of_valid {r : Request} (h : r.Valid) (page : Option Page) :
    (∃ s, r.statement page = .ok s ∧
      ∀ path, r.ancestorPath = some path → Identity.validateKey path = .ok ()) ∨
    ∃ path fault, r.ancestorPath = some path ∧
      Identity.validateKey path = .error (.malformedIdentity fault) ∧
      r.statement page = .error (.domain (.malformedIdentity fault)) := by
  cases hp : r.ancestorPath with
  | none =>
    have hscope : r.scopeId = .ok none := by rw [scopeId, hp]
    obtain ⟨s, hs, _⟩ := statement_of_scope h hscope page
    exact .inl ⟨s, hs, fun path he => by cases he⟩
  | some path =>
    have hgroup : r.scopeId = some <$> Identity.groupId path := by rw [scopeId, hp]
    cases hk : Identity.validateKey path with
    | ok _ =>
      obtain ⟨id, hid⟩ := Identity.groupId_of_valid hk
      have hscope : r.scopeId = .ok (some id) := by
        rw [hgroup, hid]
        rfl
      obtain ⟨s, hs, _⟩ := statement_of_scope h hscope page
      refine .inl ⟨s, hs, fun other he => ?_⟩
      cases he
      exact hk
    | error e =>
      obtain ⟨fault, rfl⟩ := Identity.malformed_of_validateKey hk
      have hscope : r.scopeId = .error (.malformedIdentity fault) := by
        rw [hgroup, Identity.groupId_of_error hk]
        rfl
      exact .inr ⟨path, fault, rfl, hk, statement_of_error h hscope page⟩

/-- Every request that can come about is valid, and is compiled unless the path of the
group above is no key. No name in it is ever refused. -/
theorem statement_of_obtained {r : Request} (h : r.Obtained) :
    r.Valid ∧ ∀ page : Option Page,
      (∃ s, r.statement page = .ok s ∧
        ∀ path, r.ancestorPath = some path → Identity.validateKey path = .ok ()) ∨
      ∃ path fault, r.ancestorPath = some path ∧
        Identity.validateKey path = .error (.malformedIdentity fault) ∧
        r.statement page = .error (.domain (.malformedIdentity fault)) := by
  obtain ⟨d, hd⟩ := h.exists_draft
  have hv := Draft.valid_of_build hd
  exact ⟨hv, statement_of_valid hv⟩

/-- A query string that names a group whose path holds the separator of ids. -/
theorem statement_of_obtained_separator : ∃ r,
    ofQueryString (scopeDraft "/eu___west").request.queryString = .ok r ∧ r.Valid ∧
      r.statement none =
        .error (.domain (.malformedIdentity (.reservedSeparator "/eu___west"))) := by
  have hb : (scopeDraft "/eu___west").build = .ok (scopeDraft "/eu___west").request := by rfl
  have hv := Draft.valid_of_build hb
  have hq : ofQueryString (scopeDraft "/eu___west").request.queryString =
      .ok (scopeDraft "/eu___west").request.reread := by
    rw [ofQueryString_queryString_eq_ok_iff hv,
      rescoped_of_commaless hv (by decide) (by simp; decide)]
    exact ⟨fun op f hf => absurd hf List.not_mem_nil, build_draft (valid_reread hv)⟩
  have hkey : Identity.validateKey "/eu___west" =
      .error (.malformedIdentity (.reservedSeparator "/eu___west")) := by rfl
  obtain ⟨hvalid, hpages⟩ := statement_of_obtained (.queried hq)
  refine ⟨_, hq, hvalid, ?_⟩
  rcases hpages none with ⟨s, _, hvalidKey⟩ | ⟨path, fault, hpath, hfault, hs⟩
  · rw [hvalidKey "/eu___west" rfl] at hkey
    cases hkey
  · cases hpath
    rw [hkey] at hfault
    cases hfault
    exact hs

end Search.Request

end DeviceGraph
