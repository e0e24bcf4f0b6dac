import PlainQuiz.Tools

set_option autoImplicit false

namespace PlainQuiz

structure Mixer where
  state : UInt64
  deriving DecidableEq, Repr

namespace Mixer

def mix (x : UInt64) : UInt64 :=
  let x := (x ^^^ (x >>> 30)) * 0xBF58476D1CE4E5B9
  let x := (x ^^^ (x >>> 27)) * 0x94D049BB133111EB
  x ^^^ (x >>> 31)

def next (mixer : Mixer) : Mixer := ⟨mixer.state + 0x9E3779B97F4A7C15⟩

def upTo (mixer : Mixer) (bound : Nat) : Nat :=
  (mix mixer.next.state).toNat % (bound + 1)

-- Every item goes to a random place among those behind it.
def shuffle : List Text → Mixer → List Text × Mixer
  | [], mixer => ([], mixer)
  | item :: rest, mixer =>
    let (arranged, later) := shuffle rest mixer
    (arranged.insertIdx (later.upTo arranged.length) item, later.next)

theorem shuffle_perm (items : List Text) (mixer : Mixer) :
    (shuffle items mixer).1.Perm items := by
  induction items with
  | nil => exact .refl _
  | cons item rest ih =>
    have place : (shuffle rest mixer).2.upTo (shuffle rest mixer).1.length ≤
        (shuffle rest mixer).1.length := Nat.le_of_lt_succ (Nat.mod_lt _ (Nat.succ_pos _))
    exact (List.perm_insertIdx item _ place).trans (ih.cons item)

def shuffler : Shuffler Mixer where
  ofSeed seed := ⟨UInt64.ofNat seed⟩
  shuffle := shuffle
  shuffle_perm := shuffle_perm

end Mixer

end PlainQuiz
