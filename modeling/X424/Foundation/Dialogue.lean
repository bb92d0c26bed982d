import Mathlib.Data.List.Basic
import Mathlib.Data.List.Induction

/-!
# Dialogues

A program that talks to its surroundings makes a call, waits for the answer and
goes on as the answer tells it.  The surroundings may answer as they like, also
by what was said before, so a statement about every surroundings is a statement
about every order and content of answers.

`Keeps` follows a program through all answers at once: each call is allowed
after what was said before it, and the value that is returned meets a
condition.  A thrown error ends the program and promises nothing.
-/

namespace X424.Foundation

structure Interface where
  Call : Type
  Answer : Call → Type

structure Exchange (I : Interface) where
  call : I.Call
  answer : I.Answer call

inductive Dialogue (I : Interface) (ε α : Type) where
  | done (value : α)
  | fail (error : ε)
  | ask (call : I.Call) (next : I.Answer call → Dialogue I ε α)

abbrev Surroundings (I : Interface) := List (Exchange I) → (call : I.Call) → I.Answer call

namespace Dialogue

variable {I : Interface} {ε α β : Type}

def bind (p : Dialogue I ε α) (f : α → Dialogue I ε β) : Dialogue I ε β :=
  match p with
  | done value => f value
  | fail error => fail error
  | ask call next => ask call fun answer => (next answer).bind f

instance : Monad (Dialogue I ε) where
  pure := done
  bind := bind

def call (call : I.Call) : Dialogue I ε (I.Answer call) := ask call done

def ofExcept : Except ε α → Dialogue I ε α
  | .ok value => done value
  | .error error => fail error

def throwing (p : Dialogue I ε (Except ε α)) : Dialogue I ε α := p.bind ofExcept

/-- `try`: the error becomes a value. -/
def attempt : Dialogue I ε α → Dialogue I ε (Except ε α)
  | done value => done (.ok value)
  | fail error => done (.error error)
  | ask call next => ask call fun answer => (next answer).attempt

def run (surroundings : Surroundings I) :
    Dialogue I ε α → List (Exchange I) → List (Exchange I) × Except ε α
  | done value, said => (said, .ok value)
  | fail error, said => (said, .error error)
  | ask call next, said =>
      (next (surroundings said call)).run surroundings
        (said ++ [⟨call, surroundings said call⟩])

theorem ofExcept_bind (value : α) (f : α → Dialogue I ε β) :
    (ofExcept (.ok value) >>= f) = f value := rfl

theorem prefix_run (surroundings : Surroundings I) (p : Dialogue I ε α) (said : List (Exchange I)) :
    said <+: (p.run surroundings said).1 := by
  induction p generalizing said with
  | done value => exact List.prefix_refl said
  | fail error => exact List.prefix_refl said
  | ask call next ih => exact (List.prefix_append _ _).trans (ih _ _)

/-! ## What a program keeps to -/

def Keeps (allowed : List (Exchange I) → I.Call → Prop) (post : List (Exchange I) → α → Prop) :
    Dialogue I ε α → List (Exchange I) → Prop
  | done value, said => post said value
  | fail _, _ => True
  | ask call next, said =>
      allowed said call ∧ ∀ answer, (next answer).Keeps allowed post (said ++ [⟨call, answer⟩])

def Allowed (allowed : List (Exchange I) → I.Call → Prop) (said : List (Exchange I)) : Prop :=
  ∀ front exchange back, said = front ++ exchange :: back → allowed front exchange.call

section Rules

variable {allowed : List (Exchange I) → I.Call → Prop} {said : List (Exchange I)}

theorem keeps_bind {post : List (Exchange I) → β → Prop} {p : Dialogue I ε α}
    {f : α → Dialogue I ε β} :
    Keeps allowed post (p >>= f) said ↔
      Keeps allowed (fun said value => Keeps allowed post (f value) said) p said := by
  change Keeps allowed post (p.bind f) said ↔ _
  induction p generalizing said with
  | done value => exact Iff.rfl
  | fail error => exact Iff.rfl
  | ask call next ih => exact and_congr_right fun _ => forall_congr' fun answer => ih answer

theorem keeps_ofExcept {post : List (Exchange I) → α → Prop} {x : Except ε α} :
    Keeps allowed post (ofExcept x : Dialogue I ε α) said ↔
      ∀ value, x = .ok value → post said value := by
  cases x with
  | ok value => exact ⟨fun h _ heq => Except.ok.inj heq ▸ h, fun h => h value rfl⟩
  | error error => exact ⟨fun _ _ => nofun, fun _ => trivial⟩

theorem keeps_throwing {post : List (Exchange I) → α → Prop} {p : Dialogue I ε (Except ε α)} :
    Keeps allowed post p.throwing said ↔
      Keeps allowed (fun said x => ∀ value, x = .ok value → post said value) p said := by
  refine keeps_bind.trans (iff_of_eq (congrArg (Keeps allowed · p said) ?_))
  funext said x
  exact propext keeps_ofExcept

theorem Keeps.mono {post post' : List (Exchange I) → α → Prop} {p : Dialogue I ε α}
    (h : Keeps allowed post p said) (hpost : ∀ said value, post said value → post' said value) :
    Keeps allowed post' p said := by
  induction p generalizing said with
  | done value => exact hpost said value h
  | fail error => trivial
  | ask call next ih => exact ⟨h.1, fun answer => ih answer (h.2 answer)⟩

theorem Keeps.attempt {post : List (Exchange I) → Except ε α → Prop} {p : Dialogue I ε α}
    (h : Keeps allowed (fun said value => post said (.ok value)) p said)
    (herror : ∀ said error, post said (.error error)) : Keeps allowed post p.attempt said := by
  induction p generalizing said with
  | done value => exact h
  | fail error => exact herror said error
  | ask call next ih => exact ⟨h.1, fun answer => ih answer (h.2 answer)⟩

theorem allowed_nil : Allowed allowed [] := by
  intro front exchange back h
  cases front <;> cases h

theorem Allowed.concat {exchange : Exchange I} (h : Allowed allowed said)
    (hlast : allowed said exchange.call) : Allowed allowed (said ++ [exchange]) := by
  intro front middle back heq
  rcases List.eq_nil_or_concat back with rfl | ⟨init, last, rfl⟩
  · obtain ⟨rfl, hmiddle⟩ := List.append_inj' heq rfl
    cases hmiddle
    exact hlast
  · rw [List.concat_eq_append, ← List.cons_append, ← List.append_assoc] at heq
    exact h front middle init (List.append_inj' heq rfl).1

theorem Allowed.of_concat {exchange : Exchange I} (h : Allowed allowed (said ++ [exchange])) :
    Allowed allowed said ∧ allowed said exchange.call := by
  refine ⟨fun front middle back heq => h front middle (back ++ [exchange]) ?_,
    h said exchange [] rfl⟩
  rw [heq, List.append_assoc, List.cons_append]

theorem Allowed.induction {P : List (Exchange I) → Prop} (hnil : P [])
    (hstep : ∀ said exchange, P said → allowed said exchange.call → P (said ++ [exchange]))
    (h : Allowed allowed said) : P said := by
  induction said using List.reverseRecOn with
  | nil => exact hnil
  | append_singleton said exchange ih =>
      obtain ⟨hsaid, hlast⟩ := h.of_concat
      exact hstep said exchange (ih hsaid) hlast

/-- A run of a program only makes calls that are allowed, whatever it is answered. -/
theorem Keeps.run {post : List (Exchange I) → α → Prop} {p : Dialogue I ε α}
    (h : Keeps allowed post p said) (hsaid : Allowed allowed said)
    (surroundings : Surroundings I) :
    Allowed allowed (p.run surroundings said).1 ∧
      ∀ value, (p.run surroundings said).2 = .ok value →
        post (p.run surroundings said).1 value := by
  induction p generalizing said with
  | done value => exact ⟨hsaid, fun _ heq => Except.ok.inj heq ▸ h⟩
  | fail error => exact ⟨hsaid, fun _ => nofun⟩
  | ask call next ih => exact ih _ (h.2 _) (hsaid.concat h.1)

end Rules

end Dialogue

end X424.Foundation
