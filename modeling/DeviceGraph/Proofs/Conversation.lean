import DeviceGraph.Proofs.Engine

/-!
# Conversations with the engine

An action on the engine says one statement after the other, each in a session of
its own, and hears the answer to it. Neither the log nor a release that fails has
any part in that. An action either only reads, or it reads first and writes last;
this holds of a sequence of actions when all of them but the last only read.
-/

set_option autoImplicit false

namespace DeviceGraph

def Reply.answer : Option Reply → Except GraphError (List Json)
  | none => .ok []
  | some (Reply.rows list) => .ok list
  | some (Reply.failure reason) => .error (.engine reason)

abbrev Exchange := Statement × Except GraphError (List Json)

namespace Engine

/-- The engine but for its log and for whether releases fail. -/
def core (e : Engine) : Engine := { e with failClose := false, log := [] }

def after (e : Engine) (s : Statement) : Engine :=
  { e.core with
    replies := e.replies.tail
    submitted := e.submitted ++ [s]
    opened := e.opened + 1
    closed := e.closed + 1 }

theorem runStatement_answer (operation : String) (s : Statement) (e : Engine) :
    (e.runStatement operation s).1 = Reply.answer e.replies.head? := by
  have hanswer : (e.openSession.submit s).1 = Reply.answer e.replies.head? := by
    rw [submit, openSession]
    dsimp only
    rcases e.replies with _ | ⟨⟨⟩ | ⟨⟩, rest⟩ <;> rfl
  exact hanswer

theorem core_release (operation : String) (e : Engine) :
    (e.release operation).core = { e.core with closed := e.closed + 1 } := by
  rw [release]
  split <;> rfl

theorem core_runStatement (operation : String) (s : Statement) (e : Engine) :
    (e.runStatement operation s).2.core = e.after s := by
  have hrun : (e.runStatement operation s).2 = (e.openSession.submit s).2.release operation := rfl
  rw [hrun, core_release, submit, openSession, after]
  dsimp only
  rcases e.replies with _ | ⟨⟨⟩ | ⟨⟩, rest⟩ <;> rfl

theorem replies_core {e e' : Engine} (h : e.core = e'.core) : e.replies = e'.replies :=
  (congrArg replies h : e.core.replies = e'.core.replies)

theorem after_congr {e e' : Engine} (h : e.core = e'.core) (s : Statement) :
    e.after s = e'.after s := by
  have hsubmitted : e.core.submitted = e'.core.submitted := congrArg submitted h
  have hopened : e.core.opened = e'.core.opened := congrArg opened h
  have hclosed : e.core.closed = e'.core.closed := congrArg closed h
  rw [after, after, h, replies_core h, show e.submitted = e'.submitted from hsubmitted,
    show e.opened = e'.opened from hopened, show e.closed = e'.closed from hclosed]

/-- Sessions one after the other: each is opened, submits one statement and is released. -/
inductive Converses : Engine → List Exchange → Engine → Prop
  | done {e e' : Engine} (h : e'.core = e.core) : Converses e [] e'
  | ask {e next e' : Engine} {s : Statement} {exchanges : List Exchange} (operation : String)
    (hnext : next.core = (e.runStatement operation s).2.core)
    (rest : Converses next exchanges e') :
    Converses e ((s, (e.runStatement operation s).1) :: exchanges) e'

namespace Converses

theorem congr_start {e e₁ e' : Engine} {xs : List Exchange} (h : Converses e xs e')
    (hcore : e₁.core = e.core) : Converses e₁ xs e' := by
  cases h with
  | done h => exact .done (h.trans hcore.symm)
  | ask operation hnext rest =>
    rename_i next s exchanges
    have hanswer : (e.runStatement operation s).1 = (e₁.runStatement operation s).1 := by
      rw [runStatement_answer, runStatement_answer, replies_core hcore]
    rw [hanswer]
    refine .ask operation (hnext.trans ?_) rest
    rw [core_runStatement, core_runStatement, after_congr hcore]

theorem append {e e₁ e' : Engine} {xs ys : List Exchange} (h : Converses e xs e₁)
    (g : Converses e₁ ys e') : Converses e (xs ++ ys) e' := by
  induction h with
  | done h => exact g.congr_start h.symm
  | ask operation hnext _ ih => exact .ask operation hnext (ih g)

theorem single (operation : String) (s : Statement) {e e' : Engine}
    (h : e'.core = (e.runStatement operation s).2.core) :
    Converses e [(s, (e.runStatement operation s).1)] e' :=
  .ask operation h (.done rfl)

/-- Every session is opened and released once, and takes one reply. -/
theorem counts {e e' : Engine} {xs : List Exchange} (h : Converses e xs e') :
    e'.submitted = e.submitted ++ xs.map (·.1) ∧ e'.replies = e.replies.drop xs.length ∧
      e'.opened = e.opened + xs.length ∧ e'.closed = e.closed + xs.length := by
  induction h with
  | @done e e' h =>
    have hcore : ∀ {α : Type} (f : Engine → α), f e'.core = f e.core := fun f => congrArg f h
    exact ⟨(hcore submitted).trans (List.append_nil _).symm, hcore replies, hcore opened,
      hcore closed⟩
  | @ask e next e' s xs operation hnext rest ih =>
    rw [core_runStatement] at hnext
    have hcore : ∀ {α : Type} (f : Engine → α), f next.core = f (e.after s) :=
      fun f => congrArg f hnext
    obtain ⟨hsubmitted, hreplies, hopened, hclosed⟩ := ih
    have hsubmitted' : next.submitted = e.submitted ++ [s] := hcore submitted
    have hreplies' : next.replies = e.replies.tail := hcore replies
    have hopened' : next.opened = e.opened + 1 := hcore opened
    have hclosed' : next.closed = e.closed + 1 := hcore closed
    refine ⟨?_, ?_, ?_, ?_⟩
    · rw [hsubmitted, hsubmitted', List.map_cons, List.append_assoc]
      rfl
    · rw [hreplies, hreplies', List.drop_tail, List.length_cons]
    · rw [hopened, hopened', List.length_cons]
      omega
    · rw [hclosed, hclosed', List.length_cons]
      omega

/-- The submission with a number is answered by the reply with that number. -/
theorem answers {e e' : Engine} {xs : List Exchange} (h : Converses e xs e') :
    ∀ (k : Nat) (x : Exchange), xs[k]? = some x → x.2 = Reply.answer e.replies[k]? := by
  induction h with
  | done h => exact fun k x hx => absurd hx (by simp)
  | @ask e next e' s xs operation hnext rest ih =>
    intro k x hx
    cases k with
    | zero =>
      cases hx
      rw [runStatement_answer, List.head?_eq_getElem?]
    | succ k =>
      rw [core_runStatement] at hnext
      have hreplies : next.replies = e.replies.tail := congrArg replies hnext
      rw [ih k x hx, hreplies, List.getElem?_tail]

end Converses

end Engine

namespace Session

variable {ε ε' α β : Type}

def Oblivious (x : Session ε α) : Prop :=
  ∀ e e', e.core = e'.core → (x e).1 = (x e').1 ∧ (x e).2.core = (x e').2.core

theorem Oblivious.bind {x : Session ε α} {f : α → Session ε β} (hx : x.Oblivious)
    (hf : ∀ a, (f a).Oblivious) : (x >>= f).Oblivious := by
  intro e e' h
  obtain ⟨hresult, hcore⟩ := hx e e' h
  rw [bind_apply, bind_apply]
  rcases hxe : x e with ⟨result, e₁⟩
  rcases hxe' : x e' with ⟨result', e₁'⟩
  rw [hxe, hxe'] at hresult hcore
  dsimp only at hresult hcore
  subst hresult
  cases result with
  | error fault => exact ⟨rfl, hcore⟩
  | ok a => exact hf a e₁ e₁' hcore

structure Reads (x : Session ε α) : Prop where
  oblivious : x.Oblivious
  conversation : ∀ e, ∃ xs, Engine.Converses e xs (x e).2 ∧
    ∀ exchange ∈ xs, exchange.1.access = .read

/-- An action that reads and then writes at most once; once it has written, it fails only
as the engine did. -/
structure WritesLast (fail : GraphError → ε) (x : Session ε α) : Prop where
  oblivious : x.Oblivious
  conversation : ∀ e, ∃ reads, ∃ write : Option Exchange,
    Engine.Converses e (reads ++ write.toList) (x e).2 ∧
    (∀ exchange ∈ reads, exchange.1.access = .read) ∧
    ∀ w ∈ write, w.1.access = .write ∧
      ∀ err, (x e).1 = .error err → ∃ g, w.2 = .error g ∧ err = fail g

theorem Reads.writesLast {x : Session ε α} (h : x.Reads) (fail : GraphError → ε) :
    x.WritesLast fail where
  oblivious := h.oblivious
  conversation := fun e => by
    obtain ⟨xs, hxs, hreads⟩ := h.conversation e
    exact ⟨xs, none, by simpa using hxs, hreads, fun _ hw => absurd hw (by simp)⟩

theorem reads_ofExcept (result : Except ε α) : (ofExcept result).Reads where
  oblivious := fun _ _ h => ⟨rfl, h⟩
  conversation := fun _ => ⟨[], .done rfl, fun _ hm => absurd hm List.not_mem_nil⟩

theorem reads_pure (a : α) : (pure a : Session ε α).Reads := reads_ofExcept (.ok a)

theorem Reads.bind {x : Session ε α} {f : α → Session ε β} (hx : x.Reads)
    (hf : ∀ a, (f a).Reads) : (x >>= f).Reads where
  oblivious := hx.oblivious.bind fun a => (hf a).oblivious
  conversation := fun e => by
    obtain ⟨xs, hxs, hreads⟩ := hx.conversation e
    rw [bind_apply]
    rcases hxe : x e with ⟨result, e₁⟩
    rw [hxe] at hxs
    cases result with
    | error fault => exact ⟨xs, hxs, hreads⟩
    | ok a =>
      obtain ⟨ys, hys, hmore⟩ := (hf a).conversation e₁
      exact ⟨xs ++ ys, hxs.append hys, fun exchange hm =>
        (List.mem_append.mp hm).elim (hreads exchange) (hmore exchange)⟩

/-- What only reads may come before a write. -/
theorem Reads.bind_writesLast {fail : GraphError → ε} {x : Session ε α} {f : α → Session ε β}
    (hx : x.Reads) (hf : ∀ a, (f a).WritesLast fail) : (x >>= f).WritesLast fail where
  oblivious := hx.oblivious.bind fun a => (hf a).oblivious
  conversation := fun e => by
    obtain ⟨xs, hxs, hreads⟩ := hx.conversation e
    rw [bind_apply]
    rcases hxe : x e with ⟨result, e₁⟩
    rw [hxe] at hxs
    cases result with
    | error fault =>
      exact ⟨xs, none, by simpa using hxs, hreads, fun _ hw => absurd hw (by simp)⟩
    | ok a =>
      obtain ⟨ys, write, hys, hmore, hwrite⟩ := (hf a).conversation e₁
      refine ⟨xs ++ ys, write, ?_, fun exchange hm =>
        (List.mem_append.mp hm).elim (hreads exchange) (hmore exchange), hwrite⟩
      rw [List.append_assoc]
      exact hxs.append hys

/-- A result may be changed after a write. -/
theorem WritesLast.map {fail : GraphError → ε} {x : Session ε α} (hx : x.WritesLast fail)
    (f : α → β) : (x >>= fun a => pure (f a)).WritesLast fail where
  oblivious := hx.oblivious.bind fun a => (reads_pure (f a)).oblivious
  conversation := fun e => by
    obtain ⟨reads, write, hxs, hreads, hwrite⟩ := hx.conversation e
    rw [bind_apply]
    rcases hxe : x e with ⟨result, e₁⟩
    rw [hxe] at hxs hwrite
    cases result with
    | error fault =>
      refine ⟨reads, write, hxs, hreads, fun w hw => ⟨(hwrite w hw).1, fun err herr => ?_⟩⟩
      cases herr
      exact (hwrite w hw).2 fault rfl
    | ok a =>
      refine ⟨reads, write, hxs, hreads, fun w hw => ⟨(hwrite w hw).1, fun err herr => ?_⟩⟩
      cases herr

theorem Oblivious.mapError {x : Session ε α} (hx : x.Oblivious) (f : ε → ε') :
    (x.mapError f).Oblivious := by
  intro e e' h
  obtain ⟨hresult, hcore⟩ := hx e e' h
  exact ⟨congrArg (Except.mapError f) hresult, hcore⟩

theorem Reads.mapError {x : Session ε α} (hx : x.Reads) (f : ε → ε') : (x.mapError f).Reads where
  oblivious := hx.oblivious.mapError f
  conversation := hx.conversation

theorem WritesLast.mapError {fail : GraphError → ε} {x : Session ε α} (hx : x.WritesLast fail)
    (f : ε → ε') : (x.mapError f).WritesLast (f ∘ fail) where
  oblivious := hx.oblivious.mapError f
  conversation := fun e => by
    obtain ⟨reads, write, hxs, hreads, hwrite⟩ := hx.conversation e
    refine ⟨reads, write, hxs, hreads, fun w hw => ⟨(hwrite w hw).1, fun err herr => ?_⟩⟩
    have hmap : (x.mapError f e).1 = (x e).1.mapError f := rfl
    rw [hmap] at herr
    cases hxe : (x e).1 with
    | ok a =>
      rw [hxe] at herr
      cases herr
    | error fault =>
      rw [hxe] at herr
      cases herr
      obtain ⟨g, hg, rfl⟩ := (hwrite w hw).2 fault hxe
      exact ⟨g, hg, rfl⟩

def WritesOnly (Kind : Statement → Prop) (x : Session ε α) : Prop :=
  ∀ e, ∃ write : Option Exchange, Engine.Converses e write.toList (x e).2 ∧
    ∀ w ∈ write, w.1.access = .write ∧ Kind w.1

theorem WritesOnly.mapError {Kind : Statement → Prop} {x : Session ε α} (h : x.WritesOnly Kind)
    (f : ε → ε') : (x.mapError f).WritesOnly Kind := h

theorem WritesOnly.map {Kind : Statement → Prop} {x : Session ε α} (h : x.WritesOnly Kind)
    (f : α → β) : (x >>= fun a => pure (f a)).WritesOnly Kind := by
  intro e
  obtain ⟨write, hwrite, hall⟩ := h e
  refine ⟨write, ?_, hall⟩
  rw [bind_apply]
  rcases hx : x e with ⟨result, e₁⟩
  rw [hx] at hwrite
  cases result <;> exact hwrite

def Submits (x : Session ε α) (p : Statement → Prop) : Prop :=
  ∀ e, ∃ new, (x e).2.submitted = e.submitted ++ new ∧ ∀ s ∈ new, p s

theorem Submits.imp {x : Session ε α} {p q : Statement → Prop} (hx : x.Submits p)
    (h : ∀ s, p s → q s) : x.Submits q := fun e => by
  obtain ⟨new, hnew, hp⟩ := hx e
  exact ⟨new, hnew, fun s hs => h s (hp s hs)⟩

theorem submits_ofExcept (result : Except ε α) (p : Statement → Prop) :
    (ofExcept result).Submits p :=
  fun _ => ⟨[], (List.append_nil _).symm, fun _ hm => absurd hm List.not_mem_nil⟩

theorem Submits.bind {x : Session ε α} {f : α → Session ε β} {p : Statement → Prop}
    (hx : x.Submits p) (hf : ∀ a, (f a).Submits p) : (x >>= f).Submits p := by
  intro e
  obtain ⟨first, hfirst, hp⟩ := hx e
  rw [bind_apply]
  rcases hxe : x e with ⟨result, e₁⟩
  rw [hxe] at hfirst
  cases result with
  | error fault => exact ⟨first, hfirst, hp⟩
  | ok a =>
    obtain ⟨rest, hrest, hq⟩ := hf a e₁
    refine ⟨first ++ rest, ?_, fun s hs => (List.mem_append.mp hs).elim (hp s) (hq s)⟩
    rw [hrest, show e₁.submitted = _ from hfirst, List.append_assoc]

theorem Submits.mapError {x : Session ε α} {p : Statement → Prop} (hx : x.Submits p)
    (f : ε → ε') : (x.mapError f).Submits p := hx

end Session

end DeviceGraph
