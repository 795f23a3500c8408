import Vitae.Transpile.Elaborate

/-! The walk over a text, construct by construct. Results without warnings are pure, so a walk that meets
none is described by equations between pure results. -/

namespace Vitae.Transpile

open Markup

/-- The parts of a text with `levels` levels left below it. -/
def parts (options : TranspileOptions) (levels : Nat) (top : Bool) (text : List Char) : Noted (List Part) :=
  List.flatten <$> (constructs top text).mapM (elaborated options (sequence options levels false))

variable (options : TranspileOptions) (levels : Nat) (top : Bool)

@[simp] theorem parts_nil : parts options levels top [] = pure [] := by
  simp [parts, constructs]

theorem parts_cons (c : Char) (rest : List Char) :
    parts options levels top (c :: rest) =
      elaborated options (sequence options levels false) (construct top c rest).1 >>= fun first =>
        (first ++ ·) <$> parts options levels top (construct top c rest).2 := by
  rw [parts, constructs, List.mapM_cons]
  simp [parts]

/-- A construct without warnings puts its parts before those of the text behind it. -/
theorem parts_of_construct {c : Char} {rest after : List Char} {read : Construct} {first : List Part}
    (shape : construct top c rest = (read, after))
    (quiet : elaborated options (sequence options levels false) read = pure first) :
    parts options levels top (c :: rest) = (first ++ ·) <$> parts options levels top after := by
  rw [parts_cons, shape]
  simp [quiet]

/-- The parts of a construct stand before those of the text behind it, whatever is warned of. -/
theorem value_parts_of_construct {c : Char} {rest after : List Char} {read : Construct}
    (shape : construct top c rest = (read, after)) :
    (parts options levels top (c :: rest)).value =
      (elaborated options (sequence options levels false) read).value ++ (parts options levels top after).value := by
  rw [parts_cons, shape]
  simp

theorem sequence_succ (text : List Char) :
    sequence options (levels + 1) top text = arrange <$> parts options levels top text := by
  simp [sequence, parts]

theorem arrange_heading (title : String) (later : List Part) :
    arrange (.heading title :: later) = .titled title (Node.tidy (gather later).1) :: (gather later).2 :=
  rfl

/-- A heading behind other parts leaves them as they are. -/
theorem arrange_append (earlier : List Part) (title : String) (later : List Part) :
    arrange (earlier ++ .heading title :: later) = arrange earlier ++ arrange (.heading title :: later) := by
  have split : gather (earlier ++ .heading title :: later) =
      ((gather earlier).1, (gather earlier).2 ++ arrange (.heading title :: later)) := by
    induction earlier with
    | nil => rfl
    | cons part earlier ih => cases part <;> simp [gather, ih]
  simp [arrange, split]

end Vitae.Transpile
