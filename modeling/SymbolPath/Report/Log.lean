import SymbolPath.Extraction
import SymbolPath.Text.Quoted

/-!
The log of a run: one line for each thing worth telling, with its level and the part of the program
that tells it. A quiet log shows warnings only.
-/

namespace SymbolPath.Log

open Extraction Resolution

inductive Level where
  | debug
  | info
  | warning
deriving DecidableEq, Repr

structure Entry where
  level : Level
  teller : Text
  message : Text
deriving DecidableEq, Repr

def resolver : Text := "namepath.core.resolver"

def extractor : Text := "namepath.parsing.javascript"

def ofRemark : Remark → Entry
  | .anonymousThis name =>
    ⟨.debug, resolver,
      "'this' in " ++ Text.quoted name ++ " resolves to an anonymous function scope"⟩
  | .noContainer name =>
    ⟨.debug, resolver, "no enclosing container for inner symbol " ++ Text.quoted name⟩

def place (location : Location) (line : Int) : Text :=
  location.text ++ ":" ++ Text.ofInt line

def ofNote : Note → Entry
  | .remark remark => ofRemark remark
  | .resolved name kind path =>
    ⟨.debug, resolver,
      "resolved " ++ Text.quoted name ++ " (isa=" ++ Text.quoted kind ++ ") -> " ++
        Text.quoted path⟩
  | .folded location line =>
    ⟨.debug, extractor,
      "constructor comment at " ++ place location line ++ " folded into its class"⟩
  | .namesNothing location line =>
    ⟨.debug, extractor, "comment at " ++ place location line ++ " names nothing"⟩
  | .tooLarge location limit =>
    ⟨.info, extractor,
      "skipping " ++ location.text ++ ": larger than " ++ Text.ofInt limit ++ " bytes"⟩
  | .unreadable location reason =>
    ⟨.warning, extractor, "cannot read " ++ location.text ++ ": " ++ reason⟩
  | .noGrammar reason =>
    ⟨.warning, extractor, "tree-sitter grammar 'javascript' unavailable: " ++ reason⟩

def Level.text : Level → Text
  | .debug => "DEBUG"
  | .info => "INFO"
  | .warning => "WARNING"

def Entry.isShown (verbose : Bool) (entry : Entry) : Bool :=
  verbose || entry.level == .warning

def Entry.text (entry : Entry) : Text :=
  entry.level.text ++ " " ++ entry.teller ++ ": " ++ entry.message ++ "\n"

def render (verbose : Bool) (notes : List Note) : Text :=
  ((notes.map ofNote).filter (Entry.isShown verbose)).flatMap Entry.text

end SymbolPath.Log
