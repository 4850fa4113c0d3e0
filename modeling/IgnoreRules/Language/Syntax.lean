import IgnoreRules.Path
import IgnoreRules.Text.Letter

/-!
# Comment syntax of languages

Which markers begin a comment line and which enclose a block comment, for each language that is
counted.  A file's language is told by its suffix alone, in any letter case.

## Main definitions

* `BlockMarkers` : the two markers of a block comment; the opening one is never empty.
* `LanguageSyntax` : a language and its markers.
* `LanguageSyntax.ofPath?` : the language of a file.
-/

namespace IgnoreRules

/-- The markers around a block comment. -/
structure BlockMarkers where
  opening : Text
  closing : Text
  opening_ne_nil : opening ≠ []

/-- The block comment between two markers; an empty opening marker opens nothing. -/
def BlockMarkers.ofPair? (opening closing : Text) : Option BlockMarkers :=
  if h : opening ≠ [] then some ⟨opening, closing, h⟩ else none

/-- A language and the markers of its comments. -/
structure LanguageSyntax where
  name : Text
  lineMarkers : List Text
  block : Option BlockMarkers

namespace LanguageSyntax

/-- A language with the given line markers and pair of block markers. -/
def make (name : String) (line : List String) (block : Option (String × String)) : LanguageSyntax :=
  { name := name.toList
    lineMarkers := line.map (·.toList)
    block := block.bind fun (opening, closing) =>
      BlockMarkers.ofPair? opening.toList closing.toList }

/-- A language with two slashes for a line and a slash with a star for a block. -/
def slashed (name : String) : LanguageSyntax :=
  make name ["//"] (some ("/*", "*/"))

/-- A language whose comments begin with a number sign. -/
def hashed (name : String) : LanguageSyntax :=
  make name ["#"] none

/-- A language with two dashes for a line and the given block markers. -/
def dashed (name opening closing : String) : LanguageSyntax :=
  make name ["--"] (some (opening, closing))

/-- A language without line comments. -/
def enclosed (name opening closing : String) : LanguageSyntax :=
  make name [] (some (opening, closing))

/-- The languages by suffix. -/
def table : List (String × LanguageSyntax) :=
  [("c", slashed "C"),
    ("h", slashed "C/C++ Header"),
    ("cc", slashed "C++"),
    ("cpp", slashed "C++"),
    ("hpp", slashed "C/C++ Header"),
    ("cs", slashed "C#"),
    ("go", slashed "Go"),
    ("java", slashed "Java"),
    ("kt", slashed "Kotlin"),
    ("scala", slashed "Scala"),
    ("swift", slashed "Swift"),
    ("rs", slashed "Rust"),
    ("js", slashed "JavaScript"),
    ("jsx", slashed "JSX"),
    ("mjs", slashed "JavaScript"),
    ("ts", slashed "TypeScript"),
    ("tsx", slashed "TypeScript"),
    ("dart", slashed "Dart"),
    ("zig", make "Zig" ["//"] none),
    ("php", make "PHP" ["//", "#"] (some ("/*", "*/"))),
    ("css", enclosed "CSS" "/*" "*/"),
    ("py", make "Python" ["#"] (some ("\"\"\"", "\"\"\""))),
    ("rb", make "Ruby" ["#"] (some ("=begin", "=end"))),
    ("pl", hashed "Perl"),
    ("sh", hashed "Bourne Shell"),
    ("bash", hashed "Bourne Shell"),
    ("r", hashed "R"),
    ("ex", hashed "Elixir"),
    ("exs", hashed "Elixir"),
    ("cr", hashed "Crystal"),
    ("nim", hashed "Nim"),
    ("jl", make "Julia" ["#"] (some ("#=", "=#"))),
    ("toml", hashed "Toml"),
    ("yml", hashed "YAML"),
    ("yaml", hashed "YAML"),
    ("json", make "JSON" [] none),
    ("erl", make "Erlang" ["%"] none),
    ("hs", dashed "Haskell" "\x7b-" "-\x7d"),
    ("elm", dashed "Elm" "\x7b-" "-\x7d"),
    ("purs", dashed "PureScript" "\x7b-" "-\x7d"),
    ("ml", enclosed "OCaml" "(*" "*)"),
    ("sql", dashed "SQL" "/*" "*/"),
    ("lua", dashed "Lua" "--[[" "]]"),
    ("html", enclosed "HTML" "<!--" "-->"),
    ("xml", enclosed "XML" "<!--" "-->"),
    ("md", make "Markdown" [] none)]

/-- The language of a suffix without its dot. -/
def ofSuffix? (suffix : Text) : Option LanguageSyntax :=
  (table.find? fun entry => entry.1.toList = suffix).map (·.2)

/-- The language of a file. -/
def ofPath? (p : Path) : Option LanguageSyntax :=
  match Text.lower p.suffix with
  | [] => none
  | _ :: suffix => ofSuffix? suffix

end LanguageSyntax

end IgnoreRules
