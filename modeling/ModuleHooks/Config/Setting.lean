import ModuleHooks.Config.Basic
import ModuleHooks.Text.Case
/-!
# Setting a value from text

Environment variables give settings as text. `Config.set` reads such a text and either
changes the one field the key names or refuses; `Config.render` writes a field back in
the form that `Config.set` reads.
-/

namespace ModuleHooks

/-- **Why a configuration is refused.** -/
inductive ConfigError where
  /-- No field has this key. -/
  | unknownKey (key : Text)
  /-- The value is none of the choices of the key. -/
  | unknownVariant (key value : Text) (choices : List Text)
  /-- A reason given by somebody else. -/
  | other (message : Text)
  deriving DecidableEq, Repr

namespace ConfigError

/-- A word between backquotes. -/
def ticked (word : Text) : Text := Char.ofNat 96 :: word ++ [Char.ofNat 96]

/-- The wording of a value that is none of the choices. -/
def variantMessage (value : Text) (choices : List Text) : Text :=
  ("unknown variant " : Text) ++ ticked value ++ ", expected ".toList ++
    Text.join " or " (choices.map ticked)

/-- The wording of a refusal. -/
def message : ConfigError → Text
  | .unknownKey key => ("unknown key '" : Text) ++ key ++ "'".toList
  | .unknownVariant key value choices =>
    key ++ ": ".toList ++ variantMessage value choices
  | .other message => message

end ConfigError

namespace Config

/-- The choice with the given name. -/
def choice {α : Type} (name : α → Text) (all : List α) (key : Key) (value : Text) :
    Except ConfigError α :=
  match all.find? fun a => name a == value with
  | some a => .ok a
  | none => .error (.unknownVariant key.name value (all.map name))

/-- A text that is absent when it is blank. -/
def nonBlank? (value : Text) : Option Text :=
  match Text.trimBlank value with
  | [] => none
  | t => some t

/-- The names in a list that is written with commas. -/
def listed (value : Text) : List Text :=
  ((Text.splitOn ',' value).map Text.trimBlank).filter (· != [])

/-- The configuration with one field read from a text. -/
def setKey (c : Config) (key : Key) (value : Text) : Except ConfigError Config :=
  match key with
  | .classNaming =>
    (choice ClassNaming.name ClassNaming.all key value).map
      fun v => { c with classNaming := v }
  | .localsConvention =>
    (choice LocalsConvention.name LocalsConvention.all key value).map
      fun v => { c with localsConvention := v }
  | .assetExport =>
    (choice AssetExport.name AssetExport.all key value).map
      fun v => { c with assetExport := v }
  | .onCssImported => .ok { c with onCssImported := nonBlank? value }
  | .onCss => .ok { c with onCss := nonBlank? value }
  | .outputDirs => .ok { c with outputDirs := listed value }
  | .sourceDir => .ok { c with sourceDir := value }

/-- **Sets the value of a key from its textual form.** -/
def set (c : Config) (key value : Text) : Except ConfigError Config :=
  match Key.ofName? key with
  | some k => c.setKey k value
  | none => .error (.unknownKey key)

/-- **The textual form of a field.** -/
def render (c : Config) : Key → Text
  | .classNaming => c.classNaming.name
  | .localsConvention => c.localsConvention.name
  | .assetExport => c.assetExport.name
  | .onCssImported => c.onCssImported.getD []
  | .onCss => c.onCss.getD []
  | .outputDirs => Text.join "," c.outputDirs
  | .sourceDir => c.sourceDir

end Config

end ModuleHooks
