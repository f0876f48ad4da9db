/-! # Waiting

Sessions take steps on a common state. A step that cannot go on waits, and the session with it.
Whenever a step has been done, those who wait are tried in turn until none of them can go on. The
answer to a step that nobody waited for is kept until it is asked for.
-/

namespace Cardfile

abbrev Session := String

/-- Who waits for what, and the answers that are kept. -/
structure Crowd (σ ω α : Type) where
  state : σ
  waiting : List (Session × ω)
  kept : List (Session × α)

/-- How a step that waits is tried again, and how it ends when it is given up. -/
structure Patience (σ ω α : Type) where
  retry : σ → Session × ω → Option (α × σ)
  expire : σ → Session × ω → α × σ

namespace Patience

variable {σ ω α : Type}

/-- The first who can go on, what comes of it, and those who wait still. -/
def firstReady? (p : Patience σ ω α) (s : σ) :
    List (Session × ω) → Option ((Session × α) × List (Session × ω) × σ)
  | [] => none
  | w :: rest =>
    match p.retry s w with
    | some (a, s) => some ((w.1, a), rest, s)
    | none => (p.firstReady? s rest).map fun r => (r.1, w :: r.2.1, r.2.2)

def settleWithin (p : Patience σ ω α) : Nat → Crowd σ ω α → Crowd σ ω α
  | 0, x => x
  | n + 1, x =>
    match p.firstReady? x.state x.waiting with
    | some (a, rest, state) => p.settleWithin n ⟨state, rest, x.kept ++ [a]⟩
    | none => x

/-- Lets all go on who can. -/
def settle (p : Patience σ ω α) (x : Crowd σ ω α) : Crowd σ ω α :=
  p.settleWithin x.waiting.length x

/-- Gives up the step of a session, if it waits. -/
def giveUp (p : Patience σ ω α) (s : Session) (x : Crowd σ ω α) : Crowd σ ω α :=
  match x.waiting.find? (·.1 = s) with
  | none => x
  | some w =>
    let (a, state) := p.expire x.state w
    p.settle ⟨state, x.waiting.filter (·.1 ≠ s), x.kept ++ [(s, a)]⟩

/-- Takes the answer that is kept for a session; a step that waits still is given up. -/
def collect (p : Patience σ ω α) (s : Session) (x : Crowd σ ω α) : Option α × Crowd σ ω α :=
  let x := if x.kept.any (·.1 = s) then x else p.giveUp s x
  match x.kept.find? (·.1 = s) with
  | none => (none, x)
  | some r => (some r.2, { x with kept := x.kept.eraseP (·.1 = s) })

/-- The end of a step that has been started: its answer, unless it may wait or be asked for
later. -/
def proceed (p : Patience σ ω α) (later : Bool) (s : Session) (x : Crowd σ ω α) :
    Sum α ω × σ → Option α × Crowd σ ω α
  | (.inl a, state) =>
    let x := p.settle { x with state := state }
    if later then (none, { x with kept := x.kept ++ [(s, a)] }) else (some a, x)
  | (.inr w, state) =>
    if later then (none, { x with state := state, waiting := x.waiting ++ [(s, w)] })
    else
      let (a, state) := p.expire state (s, w)
      (some a, p.settle { x with state := state })

end Patience

end Cardfile
