/-!
# Laying out lines

Lines indented by levels of four spaces, and cells filled with spaces on the right up to a column
width that counts characters.
-/

namespace ClusterCapacity.Text

/-- Spaces per indentation level. -/
def indentSize : Nat := 4

/-- `count` spaces. -/
def spaces (count : Nat) : String := String.ofList (List.replicate count ' ')

/-- `text` as a line of its own, `depth` levels deep. -/
def indented (depth : Nat) (text : String) : String :=
  spaces (depth * indentSize) ++ text ++ "\n"

/-- `text` filled with spaces to `width` characters; a longer text stays as it is. -/
def padRight (width : Nat) (text : String) : String :=
  text ++ spaces (width - text.length)

theorem length_padRight (width : Nat) (text : String) :
    (padRight width text).length = max width text.length := by
  simp [padRight, spaces]
  omega

end ClusterCapacity.Text
