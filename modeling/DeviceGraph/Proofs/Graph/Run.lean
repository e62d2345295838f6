import DeviceGraph.Proofs.Graph.Basic

/-!
# Runs on a graph

In a run the operations follow each other, and all that an operation submits is done
to the graph before the next one begins. So a run stands for what happens as long as
its operations succeed. What each step keeps under some condition holds throughout a
run exactly if the condition is met at every step.
-/

set_option autoImplicit false

namespace DeviceGraph

variable {ε α κ : Type}

structure World where
  graph : Graph := {}
  engine : Engine := {}

def World.after (w : World) (x : Session ε α) : World where
  graph := ((x w.engine).2.submitted.drop w.engine.submitted.length).foldl (fun g s => s.apply g)
    w.graph
  engine := (x w.engine).2

theorem World.graph_after {w : World} {x : Session ε α} {new : List Statement}
    (h : (x w.engine).2.submitted = w.engine.submitted ++ new) :
    (w.after x).graph = new.foldl (fun g s => s.apply g) w.graph := by
  rw [after, h, List.drop_left]

structure Episode (κ : Type) where
  op : κ
  before : World

def episodes (act : κ → Session ε α) : List κ → World → List (Episode κ)
  | [], _ => []
  | op :: ops, w => ⟨op, w⟩ :: episodes act ops (w.after (act op))

def Succeeds (act : κ → Session ε α) (ops : List κ) (w : World) : Prop :=
  ∀ ep ∈ episodes act ops w, ∃ a, (act ep.op ep.before.engine).1 = .ok a

/-- If a step keeps an invariant exactly under a condition, so does a run under the
condition at every step. -/
theorem invariant_iff_of_step {act : κ → Session ε α} {Inv : Graph → Prop}
    {Keeps : κ → Graph → Prop} {ops : List κ}
    (hstep : ∀ op ∈ ops, ∀ w : World, Inv w.graph → (∃ a, (act op w.engine).1 = .ok a) →
      (Inv (w.after (act op)).graph ↔ Keeps op w.graph))
    {w : World} (hw : Inv w.graph) (hok : Succeeds act ops w) :
    (∀ ep ∈ episodes act ops w, Inv (ep.before.after (act ep.op)).graph) ↔
      ∀ ep ∈ episodes act ops w, Keeps ep.op ep.before.graph := by
  induction ops generalizing w with
  | nil => exact ⟨fun _ _ hm => absurd hm List.not_mem_nil, fun _ _ hm => absurd hm List.not_mem_nil⟩
  | cons op ops ih =>
    obtain ⟨hfirst, hrest⟩ := List.forall_mem_cons.mp hok
    -- the rest begins with the invariant only if the first step has met its condition
    have hone := hstep op List.mem_cons_self w hw hfirst
    rw [episodes, List.forall_mem_cons, List.forall_mem_cons, hone]
    refine and_congr_right fun hkeeps => ?_
    exact ih (fun op hm => hstep op (List.mem_cons_of_mem _ hm)) (hone.mpr hkeeps) hrest

end DeviceGraph
