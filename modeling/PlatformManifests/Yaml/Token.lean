import PlatformManifests.Yaml.Mark
import PlatformManifests.Yaml.Tag

/-!
Tokens of a YAML text: indicators, the properties of nodes, and scalars. Block collections have
no closing characters of their own; their start and end are tokens that follow from indentation.
-/
namespace PlatformManifests.Yaml

inductive ScalarStyle where
  | plain
  | singleQuoted
  | doubleQuoted
  | literal
  | folded
deriving DecidableEq, Repr

inductive TokenKind where
  | version (major minor : Nat)
  | shorthand (handle : String) (lead : Tag.Octets)
  | documentStart
  | documentEnd
  | streamEnd
  | blockSequenceStart
  | blockMappingStart
  | blockEnd
  | flowSequenceStart
  | flowSequenceEnd
  | flowMappingStart
  | flowMappingEnd
  | blockEntry
  | flowEntry
  | key
  | value
  | alias (name : String)
  | anchor (name : String)
  | tag (handle : String) (rest : Tag.Octets)
  | scalar (text : String) (style : ScalarStyle)
deriving DecidableEq, Repr

structure Token where
  kind : TokenKind
  start : Mark
  stop : Mark
deriving DecidableEq, Repr

end PlatformManifests.Yaml
