import ScriptHost.Text.Utf8

/-!
# The bytes of a text

How many bytes `Utf8.encode` makes of a text (`Utf8.length_encode`). The bytes are those that the
text is stored in, read off one after another.
-/

namespace ScriptHost

namespace Utf8

/-- Reading off the bytes from some place on leaves those before it as they were read. -/
theorem toList_loop (b : ByteArray) (i : Nat) (read : Bytes) :
    ByteArray.toList.loop b i read = read.reverse ++ b.data.toList.drop i := by
  induction i, read using ByteArray.toList.loop.induct b with
  | case1 i read hi ih =>
      have hnext : b.data.toList.drop i = b.get! i :: b.data.toList.drop (i + 1) := by
        rw [List.drop_eq_getElem_cons (by simpa using hi)]
        simp only [ByteArray.get!, Array.getElem_toList, List.cons.injEq, and_true]
        exact (getElem!_pos b.data i hi).symm
      rw [ByteArray.toList.loop, if_pos hi, ih, hnext, List.reverse_cons, List.append_assoc]
      rfl
  | case2 i read hi =>
      rw [ByteArray.toList.loop, if_neg hi, List.drop_eq_nil_of_le (by simpa using hi),
        List.append_nil]

/-- The bytes of a text are the bytes it is stored in. -/
theorem encode_eq (s : String) : encode s = s.toByteArray.data.toList := by
  rw [encode, ByteArray.toList, toList_loop]
  rfl

/-- A text has as many bytes as its size says. -/
theorem length_encode (s : String) : (encode s).length = s.utf8ByteSize := by
  rw [encode_eq, Array.length_toList]
  rfl

end Utf8

end ScriptHost
