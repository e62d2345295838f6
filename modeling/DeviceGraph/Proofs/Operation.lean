import DeviceGraph.Proofs.Service.Call

/-!
# Operations and runs

An operation is a call of the store or of a service. It writes at most once, and does
nothing after that which could fail. In a run the operations follow each other on one
engine; as each operation leaves its sessions released and takes one reply for each,
so does the run, and a release that fails is of no consequence to it.
-/

set_option autoImplicit false

namespace DeviceGraph

theorem Reply.answer_eq_error_iff (reply : Option Reply) (err : GraphError) :
    answer reply = .error err ↔
      ∃ reason, reply = some (.failure reason) ∧ err = .engine reason := by
  rcases reply with _ | ⟨⟩ | reason
  · exact ⟨fun h => (nomatch h), fun ⟨_, h, _⟩ => (nomatch h)⟩
  · exact ⟨fun h => (nomatch h), fun ⟨_, h, _⟩ => (nomatch h)⟩
  · constructor
    · intro h
      cases h
      exact ⟨reason, rfl, rfl⟩
    · rintro ⟨_, h, rfl⟩
      cases h
      rfl

inductive Operation : Type → Type → Type 1
  | store {α : Type} (c : Store.Call α) : Operation GraphError α
  | service {α : Type} (c : Service.Call α) : Operation ServiceError α

namespace Operation

variable {ε α : Type}

def run : Operation ε α → Session ε α
  | store c => c.run
  | service c => c.run

def access : Operation ε α → Access
  | store c => c.access
  | service c => c.access

def wrap : Operation ε α → GraphError → ε
  | store _ => id
  | service _ => .graph

theorem reads (op : Operation ε α) (h : op.access = .read) : op.run.Reads := by
  cases op with
  | store c => exact c.reads h
  | service c => exact c.reads h

theorem writesLast (op : Operation ε α) : op.run.WritesLast op.wrap := by
  cases op with
  | store c => exact c.writesLast
  | service c => exact c.writesLast

theorem converses (op : Operation ε α) (e : Engine) :
    ∃ xs, Engine.Converses e xs (op.run e).2 := by
  obtain ⟨reads, write, hxs, _⟩ := op.writesLast.conversation e
  exact ⟨_, hxs⟩

/-- An operation that fails has not written, unless it was the write that the engine
refused; and a call of the store that cannot plan leaves the engine as it was. -/
theorem failure_leaves_graph (op : Operation ε α) (e : Engine) :
    (∃ (reads : List Statement) (write : Option Statement),
      (op.run e).2.submitted = e.submitted ++ reads ++ write.toList ∧
      (∀ s ∈ reads, s.access = .read) ∧ (∀ s ∈ write, s.access = .write) ∧
      (op.access = .read → write = none) ∧
      ∀ err, (op.run e).1 = .error err → write ≠ none → ∃ reason,
        e.replies[reads.length]? = some (.failure reason) ∧ err = op.wrap (.engine reason)) ∧
    ∀ {β : Type} (c : Store.Call β), match c.plan e.edgeIds with
      | .error err => c.run e = (.error err, e)
      | .ok p => (c.run e).1 = p.result e ∧
        (c.run e).2.submitted = e.submitted ++ p.statement.toList := by
  refine ⟨?_, fun c => ?_⟩
  · cases h : op.access with
    | read =>
      obtain ⟨xs, hxs, hreads⟩ := (op.reads h).conversation e
      refine ⟨xs.map (·.1), none, ?_, List.forall_mem_map.mpr hreads, fun _ hw => (nomatch hw),
        fun _ => rfl, fun _ _ hw => absurd rfl hw⟩
      rw [hxs.counts.1]
      exact (List.append_nil _).symm
    | write =>
      obtain ⟨xs, write, hxs, hreads, hwrite⟩ := op.writesLast.conversation e
      refine ⟨xs.map (·.1), write.map (·.1), ?_, List.forall_mem_map.mpr hreads, ?_,
        fun hr => (nomatch hr), ?_⟩
      · rw [hxs.counts.1, List.map_append, List.append_assoc]
        cases write <;> rfl
      · intro s hs
        obtain ⟨w, hw, rfl⟩ := Option.map_eq_some_iff.mp hs
        exact (hwrite w hw).1
      · intro err herr hsome
        cases write with
        | none => exact absurd rfl hsome
        | some w =>
          obtain ⟨g, hg, rfl⟩ := (hwrite w rfl).2 err herr
          have hanswer := hxs.answers xs.length w (by simp)
          rw [hg] at hanswer
          obtain ⟨reason, hreply, rfl⟩ := (Reply.answer_eq_error_iff _ _).mp hanswer.symm
          exact ⟨reason, by rwa [List.length_map], rfl⟩
  · cases hp : c.plan e.edgeIds with
    | error err => exact c.planned.refused e err hp
    | ok p => exact ⟨c.planned.result e p hp, c.planned.submitted hp⟩

end Operation

/-! ## Runs -/

structure Step where
  {ε α : Type}
  op : Operation ε α

structure Outcome where
  {ε α : Type}
  result : Except ε α

structure Stop where
  outcome : Outcome
  engine : Engine

def trace : List Step → Engine → List Stop
  | [], _ => []
  | step :: rest, e =>
    ⟨⟨(step.op.run e).1⟩, (step.op.run e).2⟩ :: trace rest (step.op.run e).2

theorem converses_of_mem_trace {steps : List Step} {e : Engine} {stop : Stop}
    (h : stop ∈ trace steps e) : ∃ xs, Engine.Converses e xs stop.engine := by
  induction steps generalizing e with
  | nil => exact absurd h List.not_mem_nil
  | cons step rest ih =>
    obtain ⟨xs, hstep⟩ := step.op.converses e
    rcases List.mem_cons.mp h with rfl | h
    · exact ⟨xs, hstep⟩
    · obtain ⟨ys, hrest⟩ := ih h
      exact ⟨xs ++ ys, hstep.append hrest⟩

/-- Neither the log nor a failing release changes a run. -/
theorem trace_congr (steps : List Step) {e e' : Engine} (h : e.core = e'.core) :
    (trace steps e).map (fun stop => (stop.outcome, stop.engine.core)) =
      (trace steps e').map (fun stop => (stop.outcome, stop.engine.core)) := by
  induction steps generalizing e e' with
  | nil => rfl
  | cons step rest ih =>
    obtain ⟨hresult, hcore⟩ := step.op.writesLast.oblivious e e' h
    rw [trace, trace, List.map_cons, List.map_cons, ih hcore, hresult, hcore]

/-- After every operation of a run all sessions are released, one for each statement, and
each statement has had the reply in its place. Whether releases fail does not show. -/
theorem sessions_released (steps : List Step) (replies : List Reply) (failClose : Bool)
    (newId : Nat → Nat → String) :
    (∀ stop ∈ trace steps { replies, failClose, newId },
      stop.engine.opened = stop.engine.submitted.length ∧
      stop.engine.closed = stop.engine.submitted.length ∧
      ∃ xs, Engine.Converses { replies, failClose, newId } xs stop.engine ∧
        xs.map (·.1) = stop.engine.submitted ∧
        (∀ (k : Nat) (x : Exchange), xs[k]? = some x → x.2 = Reply.answer replies[k]?) ∧
        stop.engine.replies = replies.drop xs.length) ∧
    (trace steps { replies, newId, failClose := true }).map
        (fun stop => (stop.outcome, stop.engine.submitted)) =
      (trace steps { replies, newId, failClose := false }).map
        (fun stop => (stop.outcome, stop.engine.submitted)) := by
  constructor
  · intro stop hstop
    obtain ⟨xs, hxs⟩ := converses_of_mem_trace hstop
    obtain ⟨hsubmitted, hreplies, hopened, hclosed⟩ := hxs.counts
    have hxs' : stop.engine.submitted = xs.map (·.1) := hsubmitted.trans (List.nil_append _)
    have hlength : stop.engine.submitted.length = xs.length := by rw [hxs', List.length_map]
    exact ⟨hlength ▸ hopened.trans (Nat.zero_add _), hlength ▸ hclosed.trans (Nat.zero_add _), xs,
      hxs, hxs'.symm, hxs.answers, hreplies⟩
  · have hstart : ({ replies, newId, failClose := true } : Engine).core =
        ({ replies, newId, failClose := false } : Engine).core := rfl
    have hcore := trace_congr steps hstart
    have hsubmitted := congrArg (List.map fun stop => (stop.1, stop.2.submitted)) hcore
    rw [List.map_map, List.map_map] at hsubmitted
    exact hsubmitted

end DeviceGraph
