/-!
# Byte order marks

A file may begin with a mark that says how its text is encoded; the mark is not part of the text.
-/
namespace EventLedger.Text

/-- The text without a byte order mark at its beginning. -/
def withoutByteOrderMark (text : String) : String :=
  match text.toList with
  | '\ufeff' :: rest => String.ofList rest
  | _ => text

end EventLedger.Text
