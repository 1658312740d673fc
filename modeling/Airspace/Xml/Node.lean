/-!
# XML documents and their indented text

An element holds either text or child elements. Text is escaped: the markup
characters `& < > " '`, the tab and the line breaks become character
references, and a character outside the XML character range becomes U+FFFD.

Indented text puts every element on a line of its own, two spaces deeper than
its parent; an element of text only is written on one line.
-/

namespace Airspace.Xml

/-- An XML element. -/
inductive Node where
  /-- An element with attributes and text content. -/
  | text (name : String) (attributes : List (String × String)) (content : String)
  /-- An element with attributes and child elements. -/
  | element (name : String) (attributes : List (String × String)) (children : List Node)

/-- Whether a character may appear in an XML document. -/
def inCharacterRange (c : Char) : Bool :=
  let n := c.toNat
  n == 0x09 || n == 0x0A || n == 0x0D || (0x20 ≤ n && n ≤ 0xD7FF) || (0xE000 ≤ n && n ≤ 0xFFFD) ||
    (0x10000 ≤ n && n ≤ 0x10FFFF)

/-- One character of text, escaped. -/
def escapeChar (c : Char) : String :=
  match c with
  | '"' => "&#34;"
  | '\'' => "&#39;"
  | '&' => "&amp;"
  | '<' => "&lt;"
  | '>' => "&gt;"
  | '\t' => "&#x9;"
  | '\n' => "&#xA;"
  | '\r' => "&#xD;"
  | _ => if inCharacterRange c then String.singleton c else "�"

/-- Text with the markup characters escaped. -/
def escape (s : String) : String := String.join (s.toList.map escapeChar)

/-- A start tag. -/
def openTag (name : String) (attributes : List (String × String)) : String :=
  "<" ++ name ++ String.join (attributes.map fun (k, v) => " " ++ k ++ "=\"" ++ escape v ++ "\"") ++ ">"

/-- The lines of an element at a depth of indentation. -/
def Node.lines (depth : Nat) : Node → List String
  | .text name attrs content =>
    [String.ofList (List.replicate (2 * depth) ' ') ++ openTag name attrs ++ escape content ++
      "</" ++ name ++ ">"]
  | .element name attrs children =>
    let pad := String.ofList (List.replicate (2 * depth) ' ')
    if children.isEmpty then [pad ++ openTag name attrs ++ "</" ++ name ++ ">"]
    else
      [pad ++ openTag name attrs] ++ (children.attach.map fun ⟨c, _⟩ => c.lines (depth + 1)).flatten ++
        [pad ++ "</" ++ name ++ ">"]

/-- A document: the XML declaration, then the root element, indented, without a final line break. -/
def document (root : Node) : String :=
  "\n".intercalate ("<?xml version=\"1.0\" encoding=\"UTF-8\"?>" :: root.lines 0)

end Airspace.Xml
