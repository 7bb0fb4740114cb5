/-! # Byte order marks

* **`dropByteOrderMark cs`** — a text without the mark that some editors put in front of it. -/

namespace PubSub

/-- Drop one byte order mark in front. -/
def dropByteOrderMark : List Char → List Char
  | '\uFEFF' :: rest => rest
  | cs => cs

end PubSub
