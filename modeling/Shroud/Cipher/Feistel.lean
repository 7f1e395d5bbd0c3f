/-!
# Feistel networks

A network runs a pair of halves through rounds, one key each. A round hands the right half over and adds
the round function of it to the left half, so it is undone by itself with the halves exchanged, whatever
the round function is: running the keys in reverse order on exchanged halves undoes the network.
-/

namespace Shroud.Feistel

/-- One round: the right half moves to the left, and the left half plus the round function of the right
half moves to the right. -/
def round {κ half : Type} (add : half → half → half) (f : κ → half → half) (p : half × half)
    (key : κ) : half × half :=
  (p.2, add p.1 (f key p.2))

/-- The rounds of a list of keys, in order. -/
def run {κ half : Type} (add : half → half → half) (f : κ → half → half) (keys : List κ)
    (p : half × half) : half × half :=
  keys.foldl (round add f) p

/-- **A network undoes itself.** On exchanged halves and with the keys in reverse order it takes the
result back, provided that adding the same half twice changes nothing. -/
theorem run_reverse_swap {κ half : Type} {add : half → half → half}
    (cancel : ∀ a b, add (add a b) b = a) (f : κ → half → half) (keys : List κ) (p : half × half) :
    run add f keys.reverse (run add f keys p).swap = p.swap := by
  induction keys generalizing p with
  | nil => rfl
  | cons key keys ih =>
    have step : run add f (key :: keys) p = run add f keys (round add f p key) := rfl
    have back : ∀ q, run add f (key :: keys).reverse q
        = round add f (run add f keys.reverse q) key := by
      intro q
      simp [run, List.foldl_append]
    rw [step, back, ih]
    exact Prod.ext rfl (cancel _ _)

end Shroud.Feistel
