/-!
Names of characters. Which characters have names, and which, is for the host to say: its table is
taken as given by all that reads patterns.
-/
namespace FindReplace.Text

/-- The characters by name. Names of sequences of characters are not among them. -/
class CharacterNames where
  lookup : String → Option Char

/-- The host that has no names, where no other is given. -/
instance (priority := low) noCharacterNames : CharacterNames := ⟨fun _ => none⟩

end FindReplace.Text
