import DeviceGraph.Proofs.Conversation
import DeviceGraph.Store.Entity

/-!
# Plans

An operation on the store plans before it touches the engine: it makes a statement,
or finds that it needs none, and says how it is going to read the answer. When there
is no plan the engine stays as it is; else the plan is all that the operation does.
-/

set_option autoImplicit false

namespace DeviceGraph.Store

variable {α β γ : Type}

/-- The statement of an operation, if it needs one, and how it reads the rows. -/
structure Plan (α : Type) where
  statement : Option Statement
  read : List Json → Except GraphError α

namespace Plan

def ask (s : Statement) (read : List Json → Except GraphError α) : Plan α := ⟨some s, read⟩

def tell (s : Statement) (a : α) : Plan α := ⟨some s, fun _ => .ok a⟩

def idle (a : α) : Plan α := ⟨none, fun _ => .ok a⟩

def map (f : α → β) (p : Plan α) : Plan β := ⟨p.statement, fun rows => f <$> p.read rows⟩

def result (p : Plan α) (e : Engine) : Except GraphError α :=
  match p.statement with
  | none => p.read []
  | some _ => Reply.answer e.replies.head? >>= p.read

def core (p : Plan α) (e : Engine) : Engine := p.statement.elim e.core e.after

theorem result_map (f : α → β) (p : Plan α) (e : Engine) :
    (p.map f).result e = f <$> p.result e := by
  obtain ⟨statement, read⟩ := p
  cases statement with
  | none => rfl
  | some s =>
    show Reply.answer e.replies.head? >>= (fun rows => f <$> read rows) =
      f <$> (Reply.answer e.replies.head? >>= read)
    cases Reply.answer e.replies.head? <;> rfl

theorem result_congr (p : Plan α) {e e' : Engine} (h : e.core = e'.core) :
    p.result e = p.result e' := by
  rw [result, result, Engine.replies_core h]

theorem core_congr (p : Plan α) {e e' : Engine} (h : e.core = e'.core) :
    p.core e = p.core e' := by
  rw [core, core]
  cases p.statement with
  | none => exact h
  | some s => exact Engine.after_congr h s

end Plan

abbrev Planning (α : Type) := EdgeIds → Except GraphError (Plan α)

/-- An operation that does what it plans, and nothing when it cannot plan. -/
structure Planned (x : Session GraphError α) (plan : Planning α) : Prop where
  refused : ∀ e err, plan e.edgeIds = .error err → x e = (.error err, e)
  result : ∀ e p, plan e.edgeIds = .ok p → (x e).1 = p.result e
  core : ∀ e p, plan e.edgeIds = .ok p → (x e).2.core = p.core e

namespace Planned

theorem idle {x : Session GraphError α} {a : α}
    (h : ∀ e, ∃ e₁, x e = (.ok a, e₁) ∧ e₁.core = e.core) : Planned x fun _ => .ok (.idle a) where
  refused := fun _ _ hp => nomatch hp
  result := fun e p hp => by
    obtain ⟨e₁, hx, _⟩ := h e
    cases hp
    rw [hx]
    rfl
  core := fun e p hp => by
    obtain ⟨e₁, hx, hcore⟩ := h e
    cases hp
    rw [hx]
    exact hcore

theorem run (operation : String) (s : Statement) {f : List Json → Session GraphError α}
    {read : List Json → Except GraphError α}
    (h : ∀ rows e, (f rows e).1 = read rows ∧ (f rows e).2.core = e.core) :
    Planned (Session.run operation s >>= f) fun _ => .ok (.ask s read) := by
  have hbind : ∀ e, ((Session.run operation s >>= f) e).1 = (Plan.ask s read).result e ∧
      ((Session.run operation s >>= f) e).2.core = e.after s := by
    intro e
    have hanswer : (Session.run operation s e).1 = Reply.answer e.replies.head? :=
      Engine.runStatement_answer operation s e
    have hcore : (Session.run operation s e).2.core = e.after s :=
      Engine.core_runStatement operation s e
    rw [Session.bind_apply, Plan.result, Plan.ask]
    rcases hx : Session.run operation s e with ⟨answer, e₁⟩
    rw [hx] at hanswer hcore
    rw [← hanswer]
    cases answer with
    | error err => exact ⟨rfl, hcore⟩
    | ok rows => exact ⟨(h rows e₁).1, (h rows e₁).2.trans hcore⟩
  exact {
    refused := fun _ _ hp => nomatch hp
    result := fun e p hp => by
      cases hp
      exact (hbind e).1
    core := fun e p hp => by
      cases hp
      exact (hbind e).2 }

theorem ask (operation : String) (s : Statement) {f : List Json → Session GraphError α}
    {read : List Json → Except GraphError α} (h : ∀ rows, f rows = Session.ofExcept (read rows)) :
    Planned (Session.run operation s >>= f) fun _ => .ok (.ask s read) :=
  run operation s fun rows e => by
    rw [h rows]
    exact ⟨rfl, rfl⟩

theorem tell (operation : String) (s : Statement) (a : α) :
    Planned (Session.run operation s >>= fun _ => pure a) fun _ => .ok (.tell s a) :=
  run operation s fun _ _ => ⟨rfl, rfl⟩

/-- What can be computed is computed before the engine is asked. -/
theorem ofExcept_bind {result : Except GraphError β} {f : β → Session GraphError α}
    {plan : β → Planning α} (h : ∀ b, Planned (f b) (plan b)) :
    Planned (Session.ofExcept result >>= f) fun ids => result >>= fun b => plan b ids := by
  cases result with
  | error err =>
    exact {
      refused := fun e err' hp => by
        cases hp
        rfl
      result := fun _ _ hp => nomatch hp
      core := fun _ _ hp => nomatch hp }
  | ok b => exact ⟨(h b).refused, (h b).result, (h b).core⟩

theorem edgeIds_bind {f : (Nat → String) → Session GraphError α} {plan : Planning α}
    (h : ∀ ids, Planned (f ids) fun _ => plan ids) : Planned (Session.edgeIds >>= f) plan where
  refused := fun e => (h e.edgeIds).refused e
  result := fun e => (h e.edgeIds).result e
  core := fun e => (h e.edgeIds).core e

theorem map {x : Session GraphError α} {plan : Planning α} (h : Planned x plan) (f : α → β) :
    Planned (x >>= fun a => pure (f a)) fun ids => Plan.map f <$> plan ids where
  refused := fun e err hp => by
    have hplan : plan e.edgeIds = .error err := by
      cases hcase : plan e.edgeIds with
      | ok p =>
        rw [hcase] at hp
        cases hp
      | error err' =>
        rw [hcase] at hp
        cases hp
        rfl
    rw [Session.bind_apply, h.refused e err hplan]
  result := fun e p hp => by
    obtain ⟨q, hq, rfl⟩ := (Checks.map_eq_ok_iff _ _ _).mp hp
    rw [Plan.result_map, ← h.result e q hq, Session.bind_apply]
    rcases x e with ⟨result, e₁⟩
    cases result <;> rfl
  core := fun e p hp => by
    obtain ⟨q, hq, rfl⟩ := (Checks.map_eq_ok_iff _ _ _).mp hp
    have hcore : (q.map f).core e = q.core e := rfl
    rw [hcore, ← h.core e q hq, Session.bind_apply]
    rcases x e with ⟨result, e₁⟩
    cases result <;> rfl

/-- What only shows in the log may come before the rest of a plan. -/
theorem noted {x : Session GraphError γ} {c : γ} {f : γ → Session GraphError α} {p : Plan α}
    (hx : ∀ e, ∃ e₁, x e = (.ok c, e₁) ∧ e₁.core = e.core) (h : Planned (f c) fun _ => .ok p) :
    Planned (x >>= f) fun _ => .ok p where
  refused := fun _ _ hp => nomatch hp
  result := fun e q hq => by
    obtain ⟨e₁, hxe, hcore⟩ := hx e
    cases hq
    rw [Session.bind_apply, hxe]
    exact (h.result e₁ p rfl).trans (p.result_congr hcore)
  core := fun e q hq => by
    obtain ⟨e₁, hxe, hcore⟩ := hx e
    cases hq
    rw [Session.bind_apply, hxe]
    exact (h.core e₁ p rfl).trans (p.core_congr hcore)

/-! ## The conversation of a plan -/

variable {x : Session GraphError α} {plan : Planning α}

theorem oblivious (h : Planned x plan) : x.Oblivious := by
  intro e e' hcore
  have hids : e.edgeIds = e'.edgeIds := by
    have hsource : e.newId = e'.newId := (congrArg Engine.newId hcore : _)
    have hsubmitted : e.submitted = e'.submitted := (congrArg Engine.submitted hcore : _)
    rw [Engine.edgeIds, Engine.edgeIds, hsource, hsubmitted]
  cases hp : plan e.edgeIds with
  | error err =>
    rw [h.refused e err hp, h.refused e' err (hids ▸ hp)]
    exact ⟨rfl, hcore⟩
  | ok p =>
    rw [h.result e p hp, h.result e' p (hids ▸ hp), h.core e p hp, h.core e' p (hids ▸ hp)]
    exact ⟨p.result_congr hcore, p.core_congr hcore⟩

/-- The exchange that a plan leads to. -/
theorem converses (h : Planned x plan) {e : Engine} {p : Plan α} (hp : plan e.edgeIds = .ok p) :
    Engine.Converses e ((p.statement.map fun s => (s, Reply.answer e.replies.head?)).toList)
      (x e).2 := by
  have hcore := h.core e p hp
  rw [Plan.core] at hcore
  cases hs : p.statement with
  | none =>
    rw [hs] at hcore
    exact .done hcore
  | some s =>
    rw [hs] at hcore
    rw [← Engine.runStatement_answer "" s e]
    exact .single "" s (hcore.trans (Engine.core_runStatement "" s e).symm)

theorem submitted (h : Planned x plan) {e : Engine} {p : Plan α} (hp : plan e.edgeIds = .ok p) :
    (x e).2.submitted = e.submitted ++ p.statement.toList := by
  rw [(h.converses hp).counts.1]
  cases p.statement <;> rfl

/-- What holds of every planned statement holds of all that is submitted. -/
theorem submits (h : Planned x plan) {p : Statement → Prop}
    (hp : ∀ ids a, plan ids = .ok a → ∀ s ∈ a.statement, p s) : x.Submits p := by
  intro e
  cases ha : plan e.edgeIds with
  | error err =>
    rw [h.refused e err ha]
    exact ⟨[], (List.append_nil _).symm, fun _ hm => absurd hm List.not_mem_nil⟩
  | ok a => exact ⟨_, h.submitted ha, fun s hs => hp _ a ha s (Option.mem_toList.mp hs)⟩

theorem exists_plan (h : Planned x plan) {e : Engine} {a : α} (ha : (x e).1 = .ok a) :
    ∃ p, plan e.edgeIds = .ok p := by
  cases hp : plan e.edgeIds with
  | error err =>
    rw [h.refused e err hp] at ha
    cases ha
  | ok p => exact ⟨p, rfl⟩

theorem reads (h : Planned x plan)
    (hread : ∀ ids p, plan ids = .ok p → ∀ s ∈ p.statement, s.access = .read) : x.Reads where
  oblivious := h.oblivious
  conversation := fun e => by
    cases hp : plan e.edgeIds with
    | error err => exact ⟨[], by rw [h.refused e err hp]; exact .done rfl, by simp⟩
    | ok p =>
      refine ⟨_, h.converses hp, fun exchange hm => ?_⟩
      obtain ⟨s, hs, rfl⟩ := Option.map_eq_some_iff.mp (Option.mem_toList.mp hm)
      exact hread e.edgeIds p hp s hs

theorem writesLast (h : Planned x plan)
    (hwrite : ∀ ids p, plan ids = .ok p → (∀ s ∈ p.statement, s.access = .write) ∧
      ∀ rows, ∃ a, p.read rows = .ok a) : x.WritesLast id where
  oblivious := h.oblivious
  conversation := fun e => by
    cases hp : plan e.edgeIds with
    | error err =>
      refine ⟨[], none, ?_, by simp, fun _ hw => nomatch hw⟩
      rw [h.refused e err hp]
      exact .done rfl
    | ok p =>
      refine ⟨[], _, h.converses hp, by simp, fun w hw => ?_⟩
      obtain ⟨s, hs, rfl⟩ := Option.map_eq_some_iff.mp hw
      refine ⟨(hwrite e.edgeIds p hp).1 s hs, fun err herr => ?_⟩
      rw [h.result e p hp, Plan.result, hs] at herr
      cases hanswer : Reply.answer e.replies.head? with
      | error g =>
        rw [hanswer] at herr
        cases herr
        exact ⟨_, rfl, rfl⟩
      | ok rows =>
        obtain ⟨a, ha⟩ := (hwrite e.edgeIds p hp).2 rows
        rw [hanswer] at herr
        exact nomatch ha.symm.trans herr

end Planned

end DeviceGraph.Store
