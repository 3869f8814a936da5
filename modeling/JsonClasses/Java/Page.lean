/-! # A page of indented lines

The text grows line by line; blocks in braces are indented by four spaces. The type of a page tells
how many blocks are open, so only an open block can be closed. -/
namespace JsonClasses.Java

structure Page (depth : Nat) where
  /-- The characters written so far, latest first. -/
  written : List Char

namespace Page

def blank : Page 0 := ⟨[]⟩

variable {depth : Nat}

def text (page : Page depth) : String := String.ofList page.written.reverse

def put (page : Page depth) (s : String) : Page depth := ⟨s.toList.reverse ++ page.written⟩

def indent (page : Page depth) : Page depth := ⟨List.replicate (4 * depth) ' ' ++ page.written⟩

def putLine (page : Page depth) (s : String) : Page depth := (page.indent.put s).put "\n"

/-- A line that opens a block. -/
def openBlock (page : Page depth) (header : String) : Page (depth + 1) :=
  ⟨(page.putLine (header ++ " \x7b")).written⟩

def closeBlock (page : Page (depth + 1)) : Page depth := putLine ⟨page.written⟩ "\x7d"

/-- A blank line between members, except right behind an opening brace. -/
def gap (page : Page depth) : Page depth :=
  match page.written with
  -- latest first: the line before ends in a brace
  | '\n' :: '{' :: _ => page
  | _ => page.put "\n"

def putLines (page : Page depth) (lines : List String) : Page depth := lines.foldl putLine page

/-- A block of plain lines. -/
def putBlock (page : Page depth) (header : String) (body : List String) : Page depth :=
  ((page.openBlock header).putLines body).closeBlock

end Page
end JsonClasses.Java
