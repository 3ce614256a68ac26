import SocketMetrics.Text.Raw
/-!
# Text in UTF-8

The bytes of a text are valid UTF-8 and give the text back (`ofUtf8?_toUtf8`), so that every text
can be the content of a file. Bytes that give a text are the bytes of that text, so that a text of
the operating system has one exactly if it is made from it (`RawText.text?_eq_some_iff`).
-/

set_option autoImplicit false
set_option relaxedAutoImplicit false

namespace SocketMetrics.Text

/-- Going through a sequence of bytes collects those that have not been seen. -/
theorem toList_loop (bytes : ByteArray) (start : Nat) (seen : List UInt8) :
    ByteArray.toList.loop bytes start seen = seen.reverse ++ bytes.data.toList.drop start := by
  fun_induction ByteArray.toList.loop bytes start seen with
  | case1 start seen hinside ih =>
    have hlength : start < bytes.data.toList.length := hinside
    have hbyte : bytes.get! start = bytes.data.toList[start] :=
      getElem!_pos bytes.data start hinside
    rw [ih, List.drop_eq_getElem_cons hlength, List.reverse_cons, List.append_assoc, hbyte]
    rfl
  | case2 start seen houtside =>
    have hlength : bytes.data.toList.length ≤ start := Nat.le_of_not_lt houtside
    rw [List.drop_eq_nil_of_le hlength, List.append_nil]

/-- A sequence of bytes is made up of its list. -/
theorem mk_toList (bytes : ByteArray) : ByteArray.mk bytes.toList.toArray = bytes := by
  rw [ByteArray.toList, toList_loop]
  rfl

/-- The bytes of a text give the text back. -/
theorem ofUtf8?_toUtf8 (text : Text) : ofUtf8? text.toUtf8 = some text := by
  have hvalid : (String.ofList text).toUTF8.IsValidUTF8 := (String.ofList text).isValidUTF8
  rw [ofUtf8?, toUtf8, mk_toList, String.fromUTF8?, dif_pos hvalid]
  exact congrArg some String.toList_ofList

/-- Bytes that give a text are its bytes. -/
theorem toUtf8_of_ofUtf8? {bytes : List UInt8} {text : Text} (htext : ofUtf8? bytes = some text) :
    text.toUtf8 = bytes := by
  obtain ⟨string, hstring, rfl⟩ := Option.map_eq_some_iff.mp htext
  have hbytes : string.toUTF8 = ⟨bytes.toArray⟩ := by
    unfold String.fromUTF8? at hstring
    split at hstring
    · cases hstring
      rfl
    · cases hstring
  rw [toUtf8, String.ofList_toList, hbytes, ByteArray.toList, toList_loop]
  rfl

end SocketMetrics.Text

namespace SocketMetrics.RawText

/-- What is made from a text has the text. -/
@[simp]
theorem text?_ofText (text : Text) : (ofText text).text? = some text :=
  Text.ofUtf8?_toUtf8 text

/-- Only what is made from a text has the text. -/
theorem text?_eq_some_iff {raw : RawText} {text : Text} :
    raw.text? = some text ↔ raw = ofText text := by
  constructor
  · intro htext
    exact congrArg mk (Text.toUtf8_of_ofUtf8? htext).symm
  · rintro rfl
    exact text?_ofText text

end SocketMetrics.RawText
