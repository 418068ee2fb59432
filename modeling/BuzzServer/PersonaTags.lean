/-
This file is about the tags personas are published under. A relay keeps one
persona for each tag of an owner, and the tag folds letter case and keeps 64
characters, while an id may tell upper case from lower case in 120. Two personas
whose ids fold to one tag overwrite and take down each other.
-/

import BuzzServer.CommunityIsolation
import BuzzServer.FileRules

namespace BuzzServer

/-! ### Tags -/

/-- The lower-case spelling of an id, behind an `a` if the id begins with `-` or `_`. -/
def foldedId (id : String) : List Char :=
  if id.toList.head?.any fun c => c == '-' || c == '_' then 'a' :: id.toList.map Char.toLower
  else id.toList.map Char.toLower

def isIdentifierCharacter (c : Char) : Bool := c.isAlphanum || c == '-' || c == '_'

/-- Letters keep being letters, and what else an id may hold is left alone. -/
theorem tagCharacter_eq {c : Char} (valid : isIdentifierCharacter c = true) :
    tagCharacter c = c.toLower ∧ c.toLower.isAlphanum = !(c == '-' || c == '_') := by
  have ascii : c.toNat < 128 := by
    delta isIdentifierCharacter Char.isAlphanum Char.isAlpha Char.isUpper Char.isLower
      Char.isDigit at valid
    simp only [Bool.or_eq_true, Bool.and_eq_true, decide_eq_true_eq, beq_iff_eq] at valid
    rcases valid with (((⟨-, high⟩ | ⟨-, high⟩) | ⟨-, high⟩) | rfl) | rfl
    · exact high.trans_lt (by decide)
    · exact high.trans_lt (by decide)
    · exact high.trans_lt (by decide)
    · decide
    · decide
  have every : ∀ code < 128, isIdentifierCharacter (.ofNat code) = true →
      tagCharacter (.ofNat code) = (Char.ofNat code).toLower ∧
        (Char.ofNat code).toLower.isAlphanum =
          !(Char.ofNat code == '-' || Char.ofNat code == '_') := by
    decide +kernel
  have checked := every c.toNat ascii
  rw [Char.ofNat_toNat] at checked
  exact checked valid

/-- The tag of an accepted id is its folded spelling, cut off after 64 characters. -/
theorem personaDTag_of_valid {persona : PersonaDefinition} (valid : persona.validate = .ok ()) :
    personaDTag persona.id = String.ofList ((foldedId persona.id).take 64) := by
  simp only [PersonaDefinition.validate, validateIdentifier, validateNonempty, bind_unit_eq_ok,
    require_eq_ok, List.all_eq_true] at valid
  obtain ⟨⟨⟨nonempty, -⟩, characters⟩, -⟩ := valid
  have folded : persona.id.toList.map tagCharacter = persona.id.toList.map Char.toLower :=
    List.map_congr_left fun c member => (tagCharacter_eq (characters c member)).1
  unfold personaDTag foldedId
  rw [folded]
  cases spelled : persona.id.toList with
  | nil => simp [trim, spelled] at nonempty
  | cons first rest =>
    have letter := (tagCharacter_eq (characters first (by simp [spelled]))).2
    cases mark : first == '-' || first == '_' <;> simp_all

/-! ### Projections -/

/-- The personas a relay holds, by coordinate. -/
abbrev PersonaEvents : Type := RelayCoordinate → Option PersonaDefinition

def personaCoordinate (relayUrl : Url) (owner id : String) : RelayCoordinate :=
  ⟨relayUrl, owner, .persona, personaDTag id⟩

/-- A persona the relay holds with the same content is not submitted again. -/
def PersonaEvents.syncPersona (events : PersonaEvents) (relayUrl : Url) (owner : String)
    (persona : PersonaDefinition) : PersonaEvents :=
  let coordinate := personaCoordinate relayUrl owner persona.id
  if events coordinate = some persona then events
  else Function.update events coordinate (some persona)

def PersonaEvents.tombstonePersona (events : PersonaEvents) (relayUrl : Url) (owner id : String) :
    PersonaEvents :=
  Function.update events (personaCoordinate relayUrl owner id) none

/-- Syncing and tombstoning the first persona leave what the relay holds of the second. -/
def SparesPersona (relayUrl : Url) (owner : String) (first second : PersonaDefinition) : Prop :=
  ∀ events : PersonaEvents, let held := personaCoordinate relayUrl owner second.id
    events.syncPersona relayUrl owner first held = events held ∧
      events.tombstonePersona relayUrl owner first.id held = events held

theorem sparesPersona_iff {relayUrl : Url} {owner : String} {first second : PersonaDefinition} :
    SparesPersona relayUrl owner first second ↔ personaDTag first.id ≠ personaDTag second.id := by
  constructor
  · intro spares same
    have taken := (spares fun _ => some second).2
    simp [PersonaEvents.tombstonePersona, personaCoordinate, same] at taken
  · intro different events
    have apart : personaCoordinate relayUrl owner second.id ≠
        personaCoordinate relayUrl owner first.id := by
      intro same
      exact different (RelayCoordinate.mk.inj same).2.2.2.symm
    refine ⟨?_, Function.update_of_ne apart _ _⟩
    unfold PersonaEvents.syncPersona
    split
    · rfl
    · exact Function.update_of_ne apart _ _

/-- Two accepted personas have distinct tags, and spare each other on every relay, exactly if
their folded ids differ within the first 64 characters. -/
theorem personaDTag_separates (relayUrl : Url) (owner : String)
    {first second : PersonaDefinition} (firstValid : first.validate = .ok ())
    (secondValid : second.validate = .ok ()) :
    (personaDTag first.id ≠ personaDTag second.id ↔
        (foldedId first.id).take 64 ≠ (foldedId second.id).take 64) ∧
      (SparesPersona relayUrl owner first second ↔
        (foldedId first.id).take 64 ≠ (foldedId second.id).take 64) := by
  have tags : personaDTag first.id ≠ personaDTag second.id ↔
      (foldedId first.id).take 64 ≠ (foldedId second.id).take 64 := by
    rw [personaDTag_of_valid firstValid, personaDTag_of_valid secondValid, Ne, String.ofList_inj]
  exact ⟨tags, sparesPersona_iff.trans tags⟩

theorem personaDTag_separates_sample :
    SparesPersona ⟨"wss://relay/", "wss", some "relay", "", none, none, none⟩ "owner"
      (plainPersona "ops" "") (plainPersona "_ops" "") :=
  (personaDTag_separates _ _ (by decide +kernel) (by decide +kernel)).2.mpr (by decide +kernel)

/-- Two ids that differ in letter case alone share their tag. -/
theorem personaDTag_folds_case :
    (plainPersona "Ops" "").validate = .ok () ∧ (plainPersona "ops" "").validate = .ok () ∧
      personaDTag "Ops" = personaDTag "ops" := by
  decide +kernel

end BuzzServer
