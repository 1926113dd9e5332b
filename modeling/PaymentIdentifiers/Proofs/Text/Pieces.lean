import PaymentIdentifiers.Text.Basic

/-!
# Two characters, two more, and the rest

Identifiers begin with a country code and a pair of check digits. A text that is put together from such pieces falls
into them again, and any text is put together from its own.
-/
namespace PaymentIdentifiers.Text

theorem take_append_slice_append_drop (t : Text) : t.take 2 ++ t.slice 2 4 ++ t.drop 4 = t := by
  have hfront : t.take 2 ++ t.slice 2 4 = t.take 4 := by
    have := List.take_append_drop 2 (t.take 4)
    rwa [List.take_take] at this
  rw [hfront, List.take_append_drop]

theorem slice_append_drop_seven (t : Text) : t.slice 4 7 ++ t.drop 7 = t.drop 4 := by
  have := List.take_append_drop 3 (t.drop 4)
  rwa [List.take_drop, List.drop_drop] at this

section
variable {code pair : Text} (rest : Text) (hc : code.length = 2)
include hc

theorem take_two_pieces : (code ++ pair ++ rest).take 2 = code := by
  rw [List.append_assoc]
  exact List.take_left' hc

variable (hp : pair.length = 2)
include hp

theorem length_front : (code ++ pair).length = 4 := by
  rw [List.length_append, hc, hp]

theorem take_four_pieces : (code ++ pair ++ rest).take 4 = code ++ pair :=
  List.take_left' (length_front hc hp)

theorem drop_four_pieces : (code ++ pair ++ rest).drop 4 = rest :=
  List.drop_left' (length_front hc hp)

theorem slice_pieces : (code ++ pair ++ rest).slice 2 4 = pair := by
  rw [slice, take_four_pieces rest hc hp, List.drop_left' hc]

variable {third : Text} (ht : third.length = 3)
include ht

/-- With a third piece, the rest begins at the seventh place. -/
theorem length_three_pieces : (code ++ pair ++ third).length = 7 := by
  rw [List.length_append, length_front hc hp, ht]

theorem drop_seven_pieces : (code ++ pair ++ third ++ rest).drop 7 = rest :=
  List.drop_left' (length_three_pieces hc hp ht)

theorem slice_third_piece : (code ++ pair ++ third ++ rest).slice 4 7 = third := by
  rw [slice, List.take_left' (length_three_pieces hc hp ht), List.drop_left' (length_front hc hp)]

end

end PaymentIdentifiers.Text
