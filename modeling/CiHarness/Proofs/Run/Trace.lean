import CiHarness.Run.Trace
import Mathlib.Data.List.Basic

/-!
# Views of a trace

A trace is looked at through views: the calls in it, what the harness printed and logged, all bytes
on standard output, and all of it but the log. Each view of two traces in a row is the two views in
a row. Hiding the log changes no other view, so traces that are alike but for the log have the same
calls, prints and bytes.
-/
namespace CiHarness.Trace

/-- All of a trace but its log. -/
def unlogged (t : Trace) : Trace := t.showing fun _ => false

/-! ## One event after another -/

@[simp] theorem calls_nil : calls [] = [] := rfl

@[simp] theorem printed_nil : printed [] = [] := rfl

@[simp] theorem stdout_nil : stdout [] = [] := rfl

@[simp] theorem unlogged_nil : unlogged [] = [] := rfl

@[simp] theorem calls_append (t u : Trace) : calls (t ++ u) = t.calls ++ u.calls := by simp [calls]

@[simp] theorem printed_append (t u : Trace) :
    printed (t ++ u) = t.printed ++ u.printed := by simp [printed]

@[simp] theorem stdout_append (t u : Trace) :
    stdout (t ++ u) = t.stdout ++ u.stdout := by simp [stdout]

@[simp] theorem log_append (t u : Trace) : log (t ++ u) = t.log ++ u.log := by simp [log]

theorem showing_append (t u : Trace) (isShown : LogEntry → Bool) :
    showing (t ++ u) isShown = t.showing isShown ++ u.showing isShown := List.filter_append t u

@[simp] theorem unlogged_append (t u : Trace) : unlogged (t ++ u) = t.unlogged ++ u.unlogged :=
  showing_append t u _

@[simp] theorem calls_logged (entry : LogEntry) (t : Trace) :
    calls (.logged entry :: t) = t.calls := rfl

@[simp] theorem stdout_logged (entry : LogEntry) (t : Trace) :
    stdout (.logged entry :: t) = t.stdout := rfl

@[simp] theorem unlogged_logged (entry : LogEntry) (t : Trace) :
    unlogged (.logged entry :: t) = t.unlogged := rfl

@[simp] theorem calls_printed (text : String) (t : Trace) :
    calls (.printed text :: t) = t.calls := rfl

@[simp] theorem stdout_printed (text : String) (t : Trace) :
    stdout (.printed text :: t) = Text.Utf8.encode text ++ t.stdout := rfl

@[simp] theorem unlogged_printed (text : String) (t : Trace) :
    unlogged (.printed text :: t) = .printed text :: t.unlogged := rfl

@[simp] theorem printed_called (call : Call) (t : Trace) :
    printed (.called call :: t) = t.printed := rfl

@[simp] theorem stdout_called (call : Call) (t : Trace) :
    stdout (.called call :: t) = t.stdout := rfl

@[simp] theorem unlogged_called (call : Call) (t : Trace) :
    unlogged (.called call :: t) = .called call :: t.unlogged := rfl

@[simp] theorem printed_map_printed (texts : List String) :
    printed (texts.map .printed) = texts := by
  simp [printed, List.filterMap_map]

@[simp] theorem stdout_map_printed (texts : List String) :
    stdout (texts.map .printed) = texts.flatMap Text.Utf8.encode := by
  simp [stdout, List.flatMap_map]

theorem printed_flatMap {α : Type} (xs : List α) (f : α → Trace) :
    printed (xs.flatMap f) = xs.flatMap fun x => (f x).printed := by
  induction xs with
  | nil => rfl
  | cons x xs ih => simp [ih]

theorem stdout_flatMap {α : Type} (xs : List α) (f : α → Trace) :
    stdout (xs.flatMap f) = xs.flatMap fun x => (f x).stdout := List.flatMap_assoc

/-! ## Hidden entries of the log -/

/-- Hiding entries of the log hides no call. -/
@[simp] theorem calls_showing (t : Trace) (isShown : LogEntry → Bool) :
    (t.showing isShown).calls = t.calls := by
  rw [calls, showing, List.filterMap_filter]
  exact List.filterMap_congr fun event _ => by cases event <;> simp

/-- Hiding entries of the log hides nothing that was printed. -/
@[simp] theorem printed_showing (t : Trace) (isShown : LogEntry → Bool) :
    (t.showing isShown).printed = t.printed := by
  rw [printed, showing, List.filterMap_filter]
  exact List.filterMap_congr fun event _ => by cases event <;> simp

/-- Hiding entries of the log changes nothing on standard output. -/
@[simp] theorem stdout_showing (t : Trace) (isShown : LogEntry → Bool) :
    (t.showing isShown).stdout = t.stdout := by
  induction t with
  | nil => rfl
  | cons event t ih =>
    cases event with
    | logged entry =>
      cases hshown : isShown entry <;> simpa [showing, stdout, hshown] using ih
    | _ => simpa [showing, stdout] using ih

/-- What is hidden twice over is hidden once by both conditions. -/
theorem showing_showing (t : Trace) (isShown isKept : LogEntry → Bool) :
    (t.showing isShown).showing isKept = t.showing fun entry => isKept entry && isShown entry := by
  rw [showing, showing, showing, List.filter_filter]
  exact List.filter_congr fun event _ => by cases event <;> rfl

/-- Whatever is hidden of the log, the rest of the trace is left. -/
@[simp] theorem unlogged_showing (t : Trace) (isShown : LogEntry → Bool) :
    (t.showing isShown).unlogged = t.unlogged := by
  rw [unlogged, showing_showing]
  rfl

@[simp] theorem calls_unlogged (t : Trace) : t.unlogged.calls = t.calls := t.calls_showing _

@[simp] theorem printed_unlogged (t : Trace) : t.unlogged.printed = t.printed := t.printed_showing _

@[simp] theorem stdout_unlogged (t : Trace) : t.unlogged.stdout = t.stdout := t.stdout_showing _

variable {t u : Trace}

theorem calls_congr (h : t.unlogged = u.unlogged) : t.calls = u.calls := by
  rw [← calls_unlogged, h, calls_unlogged]

theorem printed_congr (h : t.unlogged = u.unlogged) : t.printed = u.printed := by
  rw [← printed_unlogged, h, printed_unlogged]

theorem stdout_congr (h : t.unlogged = u.unlogged) : t.stdout = u.stdout := by
  rw [← stdout_unlogged, h, stdout_unlogged]

end CiHarness.Trace
