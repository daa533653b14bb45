import GraphSchema.Text.Blank
import GraphSchema.Text.Segments

/-!
Published comments. A band opens at a line that holds `gql-comment` and closes at a line that holds
`gql-end`; only the lines inside bands are published, the closing line left out.
-/

namespace GraphSchema.PublicComments

open Text

/-- The text of an opening line: what follows the mark and its colon, without white margins. -/
def openingText? (line : String) : Option String :=
  (splitAround "gql-comment".toList line.toList).map fun (_, rest) =>
    String.ofList <| trim <|
      match rest with
      | ':' :: body => body
      | _ => rest

def closes (text : String) : Bool := contains "gql-end".toList text.toList

/-- The published lines, where `inside` tells whether a band is open before them. -/
def publishedFrom (inside : Bool) : List String → List String
  | [] => []
  | line :: lines =>
      match openingText? line with
      | some text =>
          if text = "" then publishedFrom true lines
          else if closes text then publishedFrom false lines
          else text :: publishedFrom true lines
      | none =>
          if closes line then publishedFrom false lines
          else if inside then line :: publishedFrom true lines
          else publishedFrom false lines

def published (comments : List String) : List String := publishedFrom false comments

end GraphSchema.PublicComments
