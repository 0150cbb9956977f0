import Mathlib.Data.List.Forall2

/-!
# Servers that take one request after the other

A server has a world that its answers depend on and that may also change by
itself.  `serve` is its sequential behaviour: what it makes of a list of
requests and changes in a fixed order.
-/

namespace SerialLink

namespace Server

variable {σ ρ α : Type}

inductive Happening (σ ρ : Type) where
  | request (request : ρ)
  /-- A step of the rest of the system. -/
  | change (change : σ → σ)

/-- The requests in their order. -/
def requests : List (Happening σ ρ) → List ρ
  | [] => []
  | .request request :: history => request :: requests history
  | .change _ :: history => requests history

/-- The world behind a list of requests and changes, and the answers. -/
def serve (process : σ → ρ → σ × α) :
    σ → List (Happening σ ρ) → σ × List α
  | world, [] => (world, [])
  | world, .request request :: history =>
      let (later, answer) := process world request
      let (final, answers) := serve process later history
      (final, answer :: answers)
  | world, .change change :: history => serve process (change world) history

theorem requests_append (before behind : List (Happening σ ρ)) :
    requests (before ++ behind) = requests before ++ requests behind := by
  induction before with
  | nil => rfl
  | cons happening before induction =>
      cases happening <;> simp [requests, induction]

variable (process : σ → ρ → σ × α)

theorem serve_append (world : σ) (before behind : List (Happening σ ρ)) :
    serve process world (before ++ behind) =
      ((serve process (serve process world before).1 behind).1,
        (serve process world before).2 ++
          (serve process (serve process world before).1 behind).2) := by
  induction before generalizing world with
  | nil => rfl
  | cons happening before induction =>
      cases happening with
      | request request => simp [serve, induction]
      | change change => exact induction (change world)

/-- What holds of every request and its answer holds of all of them. -/
theorem forall₂_serve {related : ρ → α → Prop}
    (answered : ∀ world request, related request (process world request).2)
    (world : σ) (history : List (Happening σ ρ)) :
    List.Forall₂ related (requests history)
      (serve process world history).2 := by
  induction history generalizing world with
  | nil => exact .nil
  | cons happening history induction =>
      cases happening with
      | request request =>
          exact .cons (answered world request) (induction _)
      | change change => exact induction (change world)

theorem forall_serve {holds : α → Prop}
    (answered : ∀ world request, holds (process world request).2)
    (world : σ) (history : List (Happening σ ρ)) :
    ∀ answer ∈ (serve process world history).2, holds answer := by
  induction history generalizing world with
  | nil =>
      intro answer member
      cases member
  | cons happening history induction =>
      cases happening with
      | request request =>
          intro answer member
          rcases List.mem_cons.mp member with rfl | later
          · exact answered world request
          · exact induction _ answer later
      | change change => exact induction (change world)

/-- Answers that are written out in another form. -/
theorem serve_map {β : Type} (render : α → β) (world : σ)
    (history : List (Happening σ ρ)) :
    serve (fun world request => ((process world request).1,
        render (process world request).2)) world history =
      ((serve process world history).1,
        (serve process world history).2.map render) := by
  induction history generalizing world with
  | nil => rfl
  | cons happening history induction =>
      cases happening with
      | request request => simp [serve, induction]
      | change change => exact induction (change world)

/-- A view of the world stays as it is if no request and no change touches
it. -/
theorem serve_keeps {β : Type} (view : σ → β) (world : σ)
    (history : List (Happening σ ρ))
    (served : ∀ request, .request request ∈ history → ∀ world,
      view (process world request).1 = view world)
    (changed : ∀ change, .change change ∈ history → ∀ world,
      view (change world) = view world) :
    view (serve process world history).1 = view world := by
  induction history generalizing world with
  | nil => rfl
  | cons happening history induction =>
      have rest := fun later => induction later
        (fun request member => served request (List.mem_cons_of_mem _ member))
        (fun change member => changed change (List.mem_cons_of_mem _ member))
      cases happening with
      | request request =>
          exact (rest _).trans (served request List.mem_cons_self world)
      | change change =>
          exact (rest _).trans (changed change List.mem_cons_self world)

end Server

end SerialLink
