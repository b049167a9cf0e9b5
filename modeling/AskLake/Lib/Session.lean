/-
# `AskLake.Lib.Session` — interleaved transactions over one store

A transaction here has two halves.  It first reads the committed store without
any lock, then takes its lock and runs to its commit or its rollback.  Other
transactions may commit between the halves, so the second half meets a store
that the first half has not seen:

    open     the session reads the committed store (the *snapshot*)
    commit   its locked half returns; the store it computed becomes the store
    rollback its locked half raises; the store stays
    lose     the session dies with nothing committed
    other    some other writer changes the store, within what `env` allows

Any number of sessions may be open, and they finish in any order.  Since the
locked half holds its lock to the end, it is one step.

`Steps.induct` is the rule every safety argument uses: what the initial store
satisfies and every committed transaction keeps holds after any interleaving.
The invariant may speak of the log of committed transactions, which is how a
law about a whole history is stated.
-/
import Mathlib.Logic.Relation
import AskLake.Lib.Outcome

namespace AskLake.Lib

variable {σ ρ ω ε : Type*}

/-- What the sessions run: `exec snapshot current request`, and what other
writers may do to the store. -/
structure Machine (σ ρ ω ε : Type*) where
  exec : σ → σ → ρ → Except ε (σ × ω)
  env : σ → σ → Prop

/-- The store, the open sessions with their snapshots, and the committed
transactions in commit order. -/
structure Config (σ ρ ω : Type*) where
  db : σ
  opened : List (ρ × σ)
  log : List (ρ × ω)

/-- A store nobody is using. -/
def Config.start (db : σ) : Config σ ρ ω := ⟨db, [], []⟩

inductive Step (M : Machine σ ρ ω ε) : Config σ ρ ω → Config σ ρ ω → Prop
  | begin (c : Config σ ρ ω) (r : ρ) :
      Step M c { c with opened := (r, c.db) :: c.opened }
  | commit {c : Config σ ρ ω} {before after : List (ρ × σ)} {r : ρ} {snapshot db : σ} {w : ω} :
      c.opened = before ++ (r, snapshot) :: after →
      M.exec snapshot c.db r = .ok (db, w) →
      Step M c ⟨db, before ++ after, c.log ++ [(r, w)]⟩
  | rollback {c : Config σ ρ ω} {before after : List (ρ × σ)} {r : ρ} {snapshot : σ} {e : ε} :
      c.opened = before ++ (r, snapshot) :: after →
      M.exec snapshot c.db r = .error e →
      Step M c ⟨c.db, before ++ after, c.log⟩
  | lose {c : Config σ ρ ω} {before after : List (ρ × σ)} {s : ρ × σ} :
      c.opened = before ++ s :: after →
      Step M c ⟨c.db, before ++ after, c.log⟩
  | other {c : Config σ ρ ω} {db : σ} :
      M.env c.db db → Step M c { c with db := db }

/-- The store after a transaction has ended, one way or the other. -/
def settled (db : σ) : Except ε (σ × ω) → σ
  | .ok (db', _) => db'
  | .error _ => db

@[simp] theorem settled_ok (db db' : σ) (w : ω) : settled (ε := ε) db (.ok (db', w)) = db' := rfl

@[simp] theorem settled_error (db : σ) (e : ε) : settled (ω := ω) db (.error e) = db := rfl

/-- Runs. -/
def Steps (M : Machine σ ρ ω ε) : Config σ ρ ω → Config σ ρ ω → Prop :=
  Relation.ReflTransGen (Step M)

/-- `I` is kept by every committed transaction, whatever snapshot it read, and
by every other writer. -/
structure Keeps (M : Machine σ ρ ω ε) (I : σ → List (ρ × ω) → Prop) : Prop where
  exec : ∀ {snapshot db db' : σ} {r : ρ} {w : ω} {log : List (ρ × ω)},
    I db log → M.exec snapshot db r = .ok (db', w) → I db' (log ++ [(r, w)])
  env : ∀ {db db' : σ} {log : List (ρ × ω)}, I db log → M.env db db' → I db' log

section
variable {M : Machine σ ρ ω ε} {I : σ → List (ρ × ω) → Prop}

theorem Keeps.step (hI : Keeps M I) {c c' : Config σ ρ ω} (h : I c.db c.log) (hs : Step M c c') :
    I c'.db c'.log := by
  cases hs with
  | begin r => exact h
  | commit _ hexec => exact hI.exec h hexec
  | rollback _ _ => exact h
  | lose _ => exact h
  | other henv => exact hI.env h henv

theorem Keeps.steps (hI : Keeps M I) {c c' : Config σ ρ ω} (h : I c.db c.log)
    (hs : Steps M c c') : I c'.db c'.log := by
  induction hs with
  | refl => exact h
  | tail _ hstep ih => exact hI.step ih hstep

/-- The invariant rule, from a store nobody is using. -/
theorem Steps.induct (hI : Keeps M I) {db : σ} (h₀ : I db []) {c : Config σ ρ ω}
    (hs : Steps M (Config.start db) c) : I c.db c.log :=
  hI.steps (c := Config.start db) h₀ hs

theorem mem_of_split {α : Type*} {xs before after : List α} {x y : α}
    (h : xs = before ++ x :: after) (hy : y ∈ before ++ after) : y ∈ xs := by
  rw [h]
  rcases List.mem_append.mp hy with hbefore | hafter
  · exact List.mem_append_left _ hbefore
  · exact List.mem_append_right _ (List.mem_cons_of_mem _ hafter)

/-- The invariant holds of every open session's snapshot too, with the log of the time it was
read. -/
theorem Steps.snapshots (hI : Keeps M I) {db : σ} (h₀ : I db []) {c : Config σ ρ ω}
    (hs : Steps M (Config.start db) c) :
    ∀ s ∈ c.opened, ∃ earlier, earlier <+: c.log ∧ I s.2 earlier := by
  induction hs with
  | refl => exact fun s hs => nomatch hs
  | tail hsteps hstep ih =>
      have hnow := Steps.induct hI h₀ hsteps
      cases hstep with
      | begin r =>
          intro s hs
          rcases List.mem_cons.mp hs with rfl | hs
          · exact ⟨_, List.prefix_rfl, hnow⟩
          · exact ih s hs
      | commit hopened _ =>
          intro s hs
          obtain ⟨earlier, hlogs, hearlier⟩ := ih s (mem_of_split hopened hs)
          exact ⟨earlier, hlogs.trans (List.prefix_append _ _), hearlier⟩
      | rollback hopened _ => exact fun s hs => ih s (mem_of_split hopened hs)
      | lose hopened => exact fun s hs => ih s (mem_of_split hopened hs)
      | other _ => exact ih

/-! ## One session after the other -/

/-- The store and the log after requests that are served one at a time, each on
the store the one before it left. -/
def serve (M : Machine σ ρ ω ε) : σ → List ρ → σ × List (ρ × ω)
  | db, [] => (db, [])
  | db, r :: rest =>
      match M.exec db db r with
      | .ok (db', w) => ((serve M db' rest).1, (r, w) :: (serve M db' rest).2)
      | .error _ => serve M db rest

/-- Serving requests one at a time is one of the runs. -/
theorem serve_steps (M : Machine σ ρ ω ε) : ∀ (db : σ) (requests : List ρ) (log : List (ρ × ω)),
    Steps M ⟨db, [], log⟩ ⟨(serve M db requests).1, [], log ++ (serve M db requests).2⟩
  | db, [], log => by
      rw [serve, List.append_nil]
      exact .refl
  | db, r :: rest, log => by
      have hbegin : Step M ⟨db, [], log⟩ ⟨db, [(r, db)], log⟩ := .begin _ r
      rw [serve]
      split
      · rename_i db' w hexec
        have hcommit : Step M ⟨db, [(r, db)], log⟩ ⟨db', [], log ++ [(r, w)]⟩ :=
          @Step.commit _ _ _ _ M ⟨db, [(r, db)], log⟩ [] [] r db db' w rfl hexec
        have hlater := serve_steps M db' rest (log ++ [(r, w)])
        rw [List.append_assoc] at hlater
        exact .head hbegin (.head hcommit hlater)
      · rename_i e hexec
        have hrollback : Step M ⟨db, [(r, db)], log⟩ ⟨db, [], log⟩ :=
          @Step.rollback _ _ _ _ M ⟨db, [(r, db)], log⟩ [] [] r db e rfl hexec
        exact .head hbegin (.head hrollback (serve_steps M db rest log))

/-- The configuration a sequence of requests leads to. -/
def served (M : Machine σ ρ ω ε) (db : σ) (requests : List ρ) : Config σ ρ ω :=
  ⟨(serve M db requests).1, [], (serve M db requests).2⟩

theorem served_steps (M : Machine σ ρ ω ε) (db : σ) (requests : List ρ) :
    Steps M (Config.start db) (served M db requests) :=
  serve_steps M db requests []

end

end AskLake.Lib
