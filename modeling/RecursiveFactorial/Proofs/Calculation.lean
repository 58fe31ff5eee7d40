import RecursiveFactorial.Calculation

/-!
# Calculations that succeed

An action that succeeds on a console did each of its parts in turn, and a write that succeeds was taken whole. So a
calculation that succeeds has written its two lines, whatever the writer.
-/
namespace RecursiveFactorial

theorem ConsoleM.bind_eq_ok {α β : Type} {x : ConsoleM α} {f : α → ConsoleM β} {b : β} {c c' : Console} :
    (x >>= f) c = .ok b c' ↔ ∃ a c₁, x c = .ok a c₁ ∧ f a c₁ = .ok b c' := by
  change EStateM.bind x f c = .ok b c' ↔ _
  unfold EStateM.bind
  cases hx : x c with
  | ok a c₁ =>
    constructor
    · intro h
      exact ⟨a, c₁, rfl, h⟩
    · rintro ⟨_, _, ⟨⟩, h⟩
      exact h
  | error e c₁ => simp

namespace Writer

theorem accepted_eq_of_length {w : Writer} {s : Octets} (h : (w.accepted s).length = s.length) :
    w.accepted s = s := by
  unfold accepted at h ⊢
  cases hr : w.room with
  | none => rfl
  | some k =>
    simp only [hr, List.length_take] at h
    exact List.take_of_length_le (by omega)

end Writer

namespace Console

theorem written_of_write {s : Octets} {c c' : Console} (h : write s c = .ok () c') :
    c'.written = c.written ++ s := by
  simp only [write] at h
  split at h
  · rename_i hlen
    cases h
    rw [Writer.accepted_eq_of_length hlen]
  · cases h

theorem written_of_flush {c c' : Console} (h : flush c = .ok () c') : c'.written = c.written := by
  simp only [flush] at h
  split at h
  · cases h
    rfl
  · cases h

end Console

namespace Calculation

theorem evaluate_eq_ok {mode : Mode} {n v : Int32} {c c' : Console} (h : evaluate mode n c = .ok v c') :
    mode.eval n = .ok v ∧ c'.written = c.written := by
  unfold evaluate at h
  cases he : mode.eval n with
  | error cause =>
    rw [he] at h
    cases h
  | ok result =>
    rw [he] at h
    cases h
    exact ⟨rfl, rfl⟩

/-- A calculation that succeeds gives the factorial and has written the banner and the labelled result. -/
theorem run_eq_ok {s : Settings} {v : Int32} {c c' : Console} (h : run s c = .ok v c') :
    s.mode.eval s.value = .ok v ∧ c'.written = c.written ++ (bannerLine s ++ resultLine s v) := by
  obtain ⟨_, c₁, hnotice, h⟩ := ConsoleM.bind_eq_ok.mp h
  obtain ⟨_, c₂, hbanner, h⟩ := ConsoleM.bind_eq_ok.mp h
  obtain ⟨r, c₃, heval, h⟩ := ConsoleM.bind_eq_ok.mp h
  obtain ⟨_, c₄, hresult, h⟩ := ConsoleM.bind_eq_ok.mp h
  obtain ⟨_, c₅, hflush, h⟩ := ConsoleM.bind_eq_ok.mp h
  cases h
  have hc₁ : c₁.written = c.written := by
    cases hnotice
    rfl
  have he := evaluate_eq_ok heval
  refine ⟨he.1, ?_⟩
  rw [Console.written_of_flush hflush, Console.written_of_write hresult, he.2, Console.written_of_write hbanner, hc₁,
    List.append_assoc]

end Calculation

end RecursiveFactorial
