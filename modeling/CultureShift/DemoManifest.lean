/-
# The manifest of demo assets

What may be published with the demo is listed in a manifest, which is arbitrary
JSON until it is validated. The validator collects everything that is wrong. A
list or an object where a word of a set is expected cannot be looked up in the
set, and then there is no answer at all.
-/

import CultureShift.CompositionText
import CultureShift.Serialization.Document
import CultureShift.Storage.PosixPaths

namespace CultureShift

namespace DemoManifest

open Serialization Relational Storage

/-! ## Strings and paths -/

def slash : CodePoint := .ofChar '/'

def dot : CodePoint := .ofChar '.'

/-- The character is whitespace. No surrogate is. -/
def isBlank (c : CodePoint) : Bool := isWhitespace (Char.ofNat c.val)

/-- The character class `[0-9a-f]`. -/
def isLowerHex (c : CodePoint) : Bool :=
  (0x30 ≤ c.val && c.val ≤ 0x39) || (0x61 ≤ c.val && c.val ≤ 0x66)

/-- `PurePosixPath`: the root of a path and the names behind it. -/
structure PurePosixPath where
  root : Text
  tail : List Text

/-- Two slashes are a root of their own, any other number of them is one. -/
def PurePosixPath.ofText (path : Text) : PurePosixPath :=
  let slashes := (path.takeWhile (· = slash)).length
  { root := if slashes = 0 then [] else if slashes = 2 then [slash, slash] else [slash]
    tail := PosixPath.tail slash dot path }

def PurePosixPath.isAbsolute (path : PurePosixPath) : Bool := path.root ≠ []

def PurePosixPath.parts (path : PurePosixPath) : List Text :=
  if path.root = [] then path.tail else path.root :: path.tail

def fixtureAssetPrefix : Text := .ofString "apps/web/public/fixtures/"

variable {φ : Type}

def isSafeFixtureAssetPath : Document φ → Bool
  | .str value =>
      if ¬fixtureAssetPrefix <+: value then false
      else if .ofChar '\\' ∈ value ∨ .ofChar ':' ∈ value then false
      else
        let path := PurePosixPath.ofText value
        !path.isAbsolute && !([dot, dot] ∈ path.parts)
  | _ => false

/-! ## Sets -/

structure TypeError where
  message : String
deriving DecidableEq

/-- `value in words`, for a set of words. What cannot be hashed cannot be looked up. -/
def inSet : Document φ → List String → Except TypeError Bool
  | .arr _, _ => .error ⟨"unhashable type: 'list'"⟩
  | .obj _, _ => .error ⟨"unhashable type: 'dict'"⟩
  | .str value, words => .ok (value ∈ words.map Text.ofString)
  | _, _ => .ok false

def supportedRightsStatuses : List String := ["cleared", "restricted", "prohibited"]

def explicitPermissions : List String := ["permitted", "prohibited"]

/-! ## The validator -/

abbrev Members (φ : Type) := List (Text × Document φ)

/-- `members.get(name)`, where nothing is `null`. -/
def get (members : Members φ) (name : String) : Document φ :=
  (Document.get? members (.ofString name)).getD .null

/-- An error about one entry. -/
def entryError (index : Nat) (message : String) : Text :=
  .ofString ("asset[" ++ toString index ++ "]: " ++ message)

/-- The errors about an identifier, and the identifiers seen after it. -/
def idErrors (index : Nat) (members : Members φ) (seenIds : List Text) : List Text × List Text :=
  match get members "id" with
  | .str assetId =>
      if assetId.all isBlank then ([entryError index "missing asset id"], seenIds)
      else if assetId ∈ seenIds then
        ([entryError index "duplicate asset id: " ++ assetId], seenIds)
      else ([], assetId :: seenIds)
  | _ => ([entryError index "missing asset id"], seenIds)

def pathErrors (index : Nat) (members : Members φ) : List Text :=
  match Document.get? members (.ofString "asset_path") with
  | none => [entryError index "missing asset path"]
  | some path =>
      if isSafeFixtureAssetPath path then [] else [entryError index "asset path must be safe"]

def isSha256 : Document φ → Bool
  | .str digest => digest.length = 64 && digest.all isLowerHex
  | _ => false

def sha256Errors (index : Nat) (members : Members φ) : List Text :=
  if isSha256 (get members "sha256") then []
  else [entryError index "sha256 must be lowercase 64-character hexadecimal"]

def isProvenance : Document φ → Bool
  | .obj provenance => !provenance.isEmpty
  | _ => false

def provenanceErrors (index : Nat) (members : Members φ) : List Text :=
  if isProvenance (get members "provenance") then [] else [entryError index "missing provenance"]

def rightsErrors (index : Nat) (members : Members φ) : Except TypeError (List Text) :=
  match Document.get? members (.ofString "rights_status") with
  | none => .ok [entryError index "missing rights status"]
  | some status => do
      let supported ← inSet status supportedRightsStatuses
      return if supported then [] else [entryError index "unsupported rights status"]

/-- The check of a permission, which a missing one fails as any other. -/
def permissionErrors (index : Nat) (members : Members φ) (name label : String) :
    Except TypeError (List Text) := do
  let explicit ← inSet (get members name) explicitPermissions
  return if explicit then [] else [entryError index (label ++ " permission must be explicit")]

def derivativeWorkErrors (index : Nat) (members : Members φ) : Except TypeError (List Text) :=
  permissionErrors index members "derivative_work_permission" "derivative-work"

def publicDisplayErrors (index : Nat) (members : Members φ) : Except TypeError (List Text) :=
  permissionErrors index members "public_display_permission" "public-display"

/-- The errors about one entry, and the identifiers seen after it. -/
def entryErrors (index : Nat) (seenIds : List Text) :
    Document φ → Except TypeError (List Text × List Text)
  | .obj members => do
      let (idErrors, seenIds) := idErrors index members seenIds
      let rightsErrors ← rightsErrors index members
      let derivativeWorkErrors ← derivativeWorkErrors index members
      let publicDisplayErrors ← publicDisplayErrors index members
      return (idErrors ++ pathErrors index members ++ sha256Errors index members ++
        provenanceErrors index members ++ rightsErrors ++ derivativeWorkErrors ++
        publicDisplayErrors, seenIds)
  | _ => .ok ([entryError index "asset must be a JSON object"], seenIds)

/-- The loop over the entries. -/
def assetsErrors (index : Nat) (seenIds : List Text) :
    List (Document φ) → Except TypeError (List Text)
  | [] => .ok []
  | asset :: assets => do
      let (errors, seenIds) ← entryErrors index seenIds asset
      let later ← assetsErrors (index + 1) seenIds assets
      return errors ++ later

/-- `value == 1`: truth equals one, and whether a floating-point number does is its own affair. -/
def equalsOne (floatEqualsOne : φ → Bool) : Document φ → Bool
  | .int value => value = 1
  | .bool value => value
  | .float value => floatEqualsOne value
  | _ => false

def versionErrors (floatEqualsOne : φ → Bool) (members : Members φ) : List Text :=
  if equalsOne floatEqualsOne (get members "manifest_version") then []
  else [.ofString "manifest_version must be 1"]

def validateManifest (floatEqualsOne : φ → Bool) : Document φ → Except TypeError (List Text)
  | .obj members =>
      let errors := versionErrors floatEqualsOne members
      match get members "assets" with
      | .arr assets => do
          let later ← assetsErrors 0 [] assets
          return errors ++ later
      | _ => .ok (errors ++ [.ofString "assets must be a JSON array"])
  | _ => .ok [.ofString "manifest must be a JSON object"]

/-! ## What may be published -/

/-- A path of a fixture. -/
structure SafePath (path : Text) : Prop where
  starts : fixtureAssetPrefix <+: path
  no_parent : [dot, dot] ∉ PosixPath.components slash path
  no_backslash : .ofChar '\\' ∉ path
  no_colon : .ofChar ':' ∉ path

/-- The document is one of the words. -/
def IsWord (words : List String) (document : Document φ) : Prop :=
  ∃ word ∈ words, document = .str (.ofString word)

/-- An entry of the manifest that may be published. -/
structure Publishable (members : Members φ) : Prop where
  id : ∃ assetId, get members "id" = .str assetId ∧ ∃ c ∈ assetId, isBlank c = false
  asset_path : ∃ path, get members "asset_path" = .str path ∧ SafePath path
  sha256 : ∃ digest, get members "sha256" = .str digest ∧ digest.length = 64 ∧
    ∀ c ∈ digest, isLowerHex c = true
  provenance : ∃ provenance, get members "provenance" = .obj provenance ∧ provenance ≠ []
  rights_status : IsWord supportedRightsStatuses (get members "rights_status")
  derivative_work : IsWord explicitPermissions (get members "derivative_work_permission")
  public_display : IsWord explicitPermissions (get members "public_display_permission")

/-- The assets are entries that may be published, with identifiers of their own. -/
def Lists (seenIds : List Text) (assets : List (Document φ)) : Prop :=
  ∃ entries : List (Members φ), assets = entries.map .obj ∧
    (∀ entry ∈ entries, Publishable entry) ∧ (entries.map fun entry => get entry "id").Nodup ∧
    ∀ entry ∈ entries, ∀ assetId ∈ seenIds, get entry "id" ≠ .str assetId

/-- The manifest lists what may be published. -/
def Accepted (floatEqualsOne : φ → Bool) (manifest : Document φ) : Prop :=
  ∃ members assets, manifest = .obj members ∧
    equalsOne floatEqualsOne (get members "manifest_version") = true ∧
    get members "assets" = .arr assets ∧ Lists [] assets

/-! ## Parts of an entry -/

/-- A path of a fixture is relative. -/
theorem root_of_starts {path : Text} (h : fixtureAssetPrefix <+: path) :
    (PurePosixPath.ofText path).root = [] := by
  obtain ⟨rest, rfl⟩ := h
  rfl

theorem isSafeFixtureAssetPath_str {path : Text} :
    isSafeFixtureAssetPath (.str path : Document φ) = true ↔ SafePath path := by
  rw [isSafeFixtureAssetPath]
  by_cases hstarts : fixtureAssetPrefix <+: path
  · have hroot := root_of_starts hstarts
    have hparts : (PurePosixPath.ofText path).parts = PosixPath.tail slash dot path := if_pos hroot
    rw [if_neg (not_not.mpr hstarts)]
    by_cases hforbidden : CodePoint.ofChar '\\' ∈ path ∨ CodePoint.ofChar ':' ∈ path
    · rw [if_pos hforbidden]
      refine iff_of_false Bool.false_ne_true ?_
      intro hsafe
      exact hforbidden.elim hsafe.no_backslash hsafe.no_colon
    · rw [if_neg hforbidden]
      obtain ⟨hbackslash, hcolon⟩ := not_or.mp hforbidden
      simp only [PurePosixPath.isAbsolute, hroot, hparts, ne_eq, not_true_eq_false, decide_false,
        Bool.not_false, Bool.true_and, Bool.not_eq_true', decide_eq_false_iff_not,
        PosixPath.parent_mem_tail]
      exact ⟨fun hparent => ⟨hstarts, hparent, hbackslash, hcolon⟩, SafePath.no_parent⟩
  · rw [if_pos hstarts]
    exact iff_of_false Bool.false_ne_true fun hsafe => hstarts hsafe.starts

theorem isSafeFixtureAssetPath_iff {document : Document φ} :
    isSafeFixtureAssetPath document = true ↔ ∃ path, document = .str path ∧ SafePath path := by
  cases document with
  | str path => simp [isSafeFixtureAssetPath_str]
  | _ => simp [isSafeFixtureAssetPath]

/-- Wherever it is read, a safe path leads to the fixtures or below them. -/
theorem SafePath.below {path : Text} (h : SafePath path) :
    ["apps", "web", "public", "fixtures"].map Text.ofString <+:
      PosixPath.walk slash dot [] path := by
  obtain ⟨rest, hrest⟩ := h.starts
  have hpath : path = Text.ofString "apps/web/public/fixtures" ++ slash :: rest := by
    rw [← hrest]
    rfl
  have hparent := h.no_parent
  rw [hpath] at hparent ⊢
  have hnames : PosixPath.tail slash dot (Text.ofString "apps/web/public/fixtures") =
      ["apps", "web", "public", "fixtures"].map Text.ofString := by decide
  rw [← hnames]
  exact PosixPath.tail_prefix_walk hparent

/-! ## Sets and reports -/

/-- The document can be looked up in a set. -/
def Hashable : Document φ → Prop
  | .arr _ => False
  | .obj _ => False
  | _ => True

theorem ofString_mem_map {value : Text} {words : List String} :
    value ∈ words.map Text.ofString ↔ IsWord words (.str value : Document φ) := by
  rw [List.mem_map, IsWord]
  apply exists_congr
  intro word
  rw [Document.str.injEq, eq_comm (a := value)]

theorem inSet_of_hashable {document : Document φ} (h : Hashable document) (words : List String) :
    ∃ found, inSet document words = .ok found ∧ (found = true ↔ IsWord words document) := by
  cases document with
  | arr items => cases h
  | obj members => cases h
  | str value => exact ⟨_, rfl, decide_eq_true_iff.trans ofString_mem_map⟩
  | _ => exact ⟨false, rfl, by simp [IsWord]⟩

theorem inSet_of_not_hashable {document : Document φ} (h : ¬Hashable document)
    (words : List String) : ∃ error, inSet document words = .error error := by
  cases document with
  | arr items => exact ⟨_, rfl⟩
  | obj members => exact ⟨_, rfl⟩
  | _ => exact absurd trivial h

/-- There is an answer in some cases, and it is that nothing is wrong in some of them. -/
structure Reports (result : Except TypeError (List Text)) (answers accepts : Prop) : Prop where
  answer : answers → ∃ errors, result = .ok errors ∧ (errors = [] ↔ accepts)
  raises : ¬answers → ∃ error, result = .error error

/-- One report in front of another. -/
def bothErrors (result later : Except TypeError (List Text)) : Except TypeError (List Text) := do
  let errors ← result
  let more ← later
  return errors ++ more

namespace Reports

variable {result later : Except TypeError (List Text)} {answers accepts answers' accepts' : Prop}

theorem of_ok {errors : List Text} (h : errors = [] ↔ accepts) :
    Reports (.ok errors) True accepts where
  answer := fun _ => ⟨errors, rfl, h⟩
  raises := fun hnot => absurd trivial hnot

theorem congr (h : Reports result answers accepts) (hanswers : answers ↔ answers')
    (haccepts : accepts ↔ accepts') : Reports result answers' accepts' := by
  rwa [← propext hanswers, ← propext haccepts]

/-- What comes first is reported first. -/
theorem append (h : Reports result answers accepts) (hlater : Reports later answers' accepts') :
    Reports (bothErrors result later) (answers ∧ answers') (accepts ∧ accepts') where
  answer := by
    rintro ⟨hanswers, hanswers'⟩
    obtain ⟨errors, rfl, hempty⟩ := h.answer hanswers
    obtain ⟨more, rfl, hempty'⟩ := hlater.answer hanswers'
    refine ⟨errors ++ more, rfl, ?_⟩
    rw [List.append_eq_nil_iff, hempty, hempty']
  raises := by
    intro hnot
    by_cases hanswers : answers
    · obtain ⟨errors, rfl, -⟩ := h.answer hanswers
      obtain ⟨error, rfl⟩ := hlater.raises fun hanswers' => hnot ⟨hanswers, hanswers'⟩
      exact ⟨error, rfl⟩
    · obtain ⟨error, rfl⟩ := h.raises hanswers
      exact ⟨error, rfl⟩

theorem prepend {errors : List Text} (h : errors = [] ↔ accepts)
    (hlater : Reports later answers accepts') :
    Reports (bothErrors (.ok errors) later) answers (accepts ∧ accepts') :=
  ((of_ok h).append hlater).congr (Iff.of_eq (true_and _)) Iff.rfl

/-- A word is looked up in its set. -/
theorem lookup {document : Document φ} {words : List String} {message : Text} :
    Reports (do
      let found ← inSet document words
      return if found then [] else [message]) (Hashable document) (IsWord words document) where
  answer := by
    intro h
    obtain ⟨found, hfound, hword⟩ := inSet_of_hashable h words
    refine ⟨_, by rw [hfound]; rfl, ?_⟩
    rw [← hword]
    cases found with
    | true => exact iff_of_true rfl rfl
    | false => exact iff_of_false (List.cons_ne_nil _ _) Bool.false_ne_true
  raises := by
    intro h
    obtain ⟨error, herror⟩ := inSet_of_not_hashable h words
    exact ⟨error, by rw [herror]; rfl⟩

end Reports

/-! ## Entries -/

/-- An entry whose words can be looked up. Anything that is no entry can be reported too. -/
def Answerable : Document φ → Prop
  | .obj members =>
      Hashable (get members "rights_status") ∧
        Hashable (get members "derivative_work_permission") ∧
        Hashable (get members "public_display_permission")
  | _ => True

variable {index : Nat} {members : Members φ} {seenIds : List Text}

/-- A check of one part reports nothing when the part is as it should be. -/
theorem ite_singleton_eq_nil {condition : Prop} [Decidable condition] {message : Text} :
    (if condition then [] else [message]) = [] ↔ condition := by
  by_cases h : condition <;> simp [h]

theorem pathErrors_eq_nil :
    pathErrors index members = [] ↔
      ∃ path, get members "asset_path" = .str path ∧ SafePath path := by
  rw [pathErrors, get]
  cases Document.get? members (.ofString "asset_path") with
  | none => simp
  | some document => rw [ite_singleton_eq_nil, isSafeFixtureAssetPath_iff, Option.getD_some]

theorem sha256Errors_eq_nil :
    sha256Errors index members = [] ↔ ∃ digest, get members "sha256" = .str digest ∧
      digest.length = 64 ∧ ∀ c ∈ digest, isLowerHex c = true := by
  rw [sha256Errors, ite_singleton_eq_nil]
  cases get members "sha256" with
  | str digest => simp [isSha256]
  | _ => simp [isSha256]

theorem provenanceErrors_eq_nil :
    provenanceErrors index members = [] ↔
      ∃ provenance, get members "provenance" = .obj provenance ∧ provenance ≠ [] := by
  rw [provenanceErrors, ite_singleton_eq_nil]
  cases get members "provenance" with
  | obj provenance => simp [isProvenance]
  | _ => simp [isProvenance]

theorem reports_rights :
    Reports (rightsErrors index members) (Hashable (get members "rights_status"))
      (IsWord supportedRightsStatuses (get members "rights_status")) := by
  rw [rightsErrors, get]
  cases Document.get? members (.ofString "rights_status") with
  | none =>
      refine (Reports.of_ok ?_).congr (iff_of_true trivial trivial) Iff.rfl
      simp [IsWord]
  | some document => exact Reports.lookup

theorem reports_permission {name label : String} :
    Reports (permissionErrors index members name label) (Hashable (get members name))
      (IsWord explicitPermissions (get members name)) :=
  Reports.lookup

/-- An identifier is accepted if it is not blank and was not seen before, and then it is seen. -/
theorem idErrors_eq_nil :
    (idErrors index members seenIds).1 = [] ↔
      ∃ assetId, get members "id" = .str assetId ∧ (∃ c ∈ assetId, isBlank c = false) ∧
        assetId ∉ seenIds := by
  rw [idErrors]
  cases get members "id" with
  | str assetId =>
      by_cases hblank : assetId.all isBlank
      · have hall : ¬∃ c ∈ assetId, isBlank c = false := by
          rintro ⟨c, hc, hfalse⟩
          rw [List.all_eq_true.mp hblank c hc] at hfalse
          cases hfalse
        simp [hblank, hall]
      · have hsome : ∃ c ∈ assetId, isBlank c = false := by simpa using hblank
        by_cases hseen : assetId ∈ seenIds <;> simp [hblank, hsome, hseen]
  | _ => simp

theorem seen_of_accepted {assetId : Text} (hid : get members "id" = .str assetId)
    (hnonblank : ∃ c ∈ assetId, isBlank c = false) (hnew : assetId ∉ seenIds) :
    (idErrors index members seenIds).2 = assetId :: seenIds := by
  have hblank : ¬assetId.all isBlank = true := by simpa using hnonblank
  rw [idErrors, hid]
  simp only [if_neg hblank, if_neg hnew]

/-- The loop runs the checks of an entry in their order and goes on with the identifiers seen. -/
theorem assetsErrors_cons_obj {assets : List (Document φ)} :
    assetsErrors index seenIds (.obj members :: assets) =
      bothErrors
        (.ok ((idErrors index members seenIds).1 ++ pathErrors index members ++
          sha256Errors index members ++ provenanceErrors index members))
        (bothErrors (rightsErrors index members)
          (bothErrors (derivativeWorkErrors index members)
            (bothErrors (publicDisplayErrors index members)
              (assetsErrors (index + 1) (idErrors index members seenIds).2 assets)))) := by
  simp only [assetsErrors, entryErrors, bothErrors, ok_bind, bind_assoc, pure_bind,
    List.append_assoc]

theorem lists_nil : Lists seenIds ([] : List (Document φ)) :=
  ⟨[], rfl, List.forall_mem_nil _, List.nodup_nil, List.forall_mem_nil _⟩

/-- The first entry takes its identifier away from the others. -/
theorem lists_cons_obj {assets : List (Document φ)} :
    Lists seenIds (.obj members :: assets) ↔
      ∃ assetId, get members "id" = .str assetId ∧ assetId ∉ seenIds ∧ Publishable members ∧
        Lists (assetId :: seenIds) assets := by
  constructor
  · rintro ⟨entries, hentries, hpublishable, hunique, hnew⟩
    cases entries with
    | nil => cases hentries
    | cons entry entries =>
        obtain ⟨hentry, hrest⟩ := List.cons.inj hentries
        obtain rfl := Document.obj.inj hentry
        obtain ⟨hfirst, hothers⟩ := List.forall_mem_cons.mp hpublishable
        obtain ⟨hunseen, hunique⟩ := List.nodup_cons.mp hunique
        obtain ⟨hnewFirst, hnewOthers⟩ := List.forall_mem_cons.mp hnew
        obtain ⟨assetId, hid, -⟩ := hfirst.id
        refine ⟨assetId, hid, fun hseen => hnewFirst _ hseen hid, hfirst, entries, hrest, hothers,
          hunique, ?_⟩
        intro other hother
        refine List.forall_mem_cons.mpr ⟨?_, hnewOthers other hother⟩
        intro hsame
        apply hunseen
        exact List.mem_map.mpr ⟨other, hother, hsame.trans hid.symm⟩
  · rintro ⟨assetId, hid, hunseen, hfirst, entries, rfl, hothers, hunique, hnew⟩
    refine ⟨members :: entries, rfl, List.forall_mem_cons.mpr ⟨hfirst, hothers⟩,
      List.nodup_cons.mpr ⟨?_, hunique⟩, List.forall_mem_cons.mpr ⟨?_, ?_⟩⟩
    · intro hmem
      obtain ⟨other, hother, heq⟩ := List.mem_map.mp hmem
      exact hnew other hother assetId List.mem_cons_self (heq.trans hid)
    · intro other hother heq
      rw [hid] at heq
      exact hunseen (Document.str.inj heq ▸ hother)
    · intro other hother seen hseen
      exact hnew other hother seen (List.mem_cons_of_mem _ hseen)

/-! ## The manifest -/

theorem assetsErrors_cons_other {asset : Document φ} {assets : List (Document φ)}
    (h : ∀ members, asset ≠ .obj members) :
    assetsErrors index seenIds (asset :: assets) =
      bothErrors (.ok [entryError index "asset must be a JSON object"])
        (assetsErrors (index + 1) seenIds assets) := by
  cases asset with
  | obj members => exact absurd rfl (h members)
  | _ => rfl

theorem plainErrors_eq_nil :
    (idErrors index members seenIds).1 ++ pathErrors index members ++ sha256Errors index members ++
        provenanceErrors index members = [] ↔
      (∃ assetId, get members "id" = .str assetId ∧ (∃ c ∈ assetId, isBlank c = false) ∧
        assetId ∉ seenIds) ∧
      (∃ path, get members "asset_path" = .str path ∧ SafePath path) ∧
      (∃ digest, get members "sha256" = .str digest ∧ digest.length = 64 ∧
        ∀ c ∈ digest, isLowerHex c = true) ∧
      ∃ provenance, get members "provenance" = .obj provenance ∧ provenance ≠ [] := by
  rw [List.append_eq_nil_iff, List.append_eq_nil_iff, List.append_eq_nil_iff, idErrors_eq_nil,
    pathErrors_eq_nil, sha256Errors_eq_nil, provenanceErrors_eq_nil, and_assoc, and_assoc]

/-- Accepting the first entry and the others is accepting them all. -/
theorem parts_and_lists {assets : List (Document φ)} :
    ((idErrors index members seenIds).1 ++ pathErrors index members ++
          sha256Errors index members ++ provenanceErrors index members = [] ∧
        IsWord supportedRightsStatuses (get members "rights_status") ∧
        IsWord explicitPermissions (get members "derivative_work_permission") ∧
        IsWord explicitPermissions (get members "public_display_permission") ∧
        Lists (idErrors index members seenIds).2 assets) ↔
      Lists seenIds (.obj members :: assets) := by
  rw [lists_cons_obj, plainErrors_eq_nil]
  constructor
  · rintro ⟨⟨⟨assetId, hid, hnonblank, hnew⟩, hpath, hsha256, hprovenance⟩, hrights, hderivative,
      hdisplay, hlater⟩
    rw [seen_of_accepted hid hnonblank hnew] at hlater
    exact ⟨assetId, hid, hnew, ⟨⟨assetId, hid, hnonblank⟩, hpath, hsha256, hprovenance, hrights,
      hderivative, hdisplay⟩, hlater⟩
  · rintro ⟨assetId, hid, hnew, h, hlater⟩
    obtain ⟨_, hid', hnonblank⟩ := h.id
    obtain rfl := Document.str.inj (hid.symm.trans hid')
    rw [seen_of_accepted hid hnonblank hnew]
    exact ⟨⟨⟨assetId, hid, hnonblank, hnew⟩, h.asset_path, h.sha256, h.provenance⟩,
      h.rights_status, h.derivative_work, h.public_display, hlater⟩

/-- The induction is on the entries; what the first one adds to the identifiers seen is what the
others may not have. -/
theorem reports_assets (assets : List (Document φ)) (index : Nat) (seenIds : List Text) :
    Reports (assetsErrors index seenIds assets) (∀ asset ∈ assets, Answerable asset)
      (Lists seenIds assets) := by
  induction assets generalizing index seenIds with
  | nil =>
      exact (Reports.of_ok (iff_of_true rfl lists_nil)).congr
        (iff_of_true trivial (List.forall_mem_nil _)) Iff.rfl
  | cons asset assets ih =>
      by_cases hobj : ∃ members, asset = .obj members
      · obtain ⟨members, rfl⟩ := hobj
        rw [assetsErrors_cons_obj]
        refine (Reports.prepend Iff.rfl (reports_rights.append (reports_permission.append
          (reports_permission.append (ih (index + 1) _))))).congr ?_ parts_and_lists
        rw [List.forall_mem_cons, Answerable, and_assoc, and_assoc]
      · have hother : ∀ members, asset ≠ .obj members := fun members heq => hobj ⟨members, heq⟩
        have hanswerable : Answerable asset := by
          cases asset with
          | obj members => exact absurd rfl (hother members)
          | _ => trivial
        rw [assetsErrors_cons_other hother]
        refine (Reports.prepend (iff_of_false (List.cons_ne_nil _ _) not_false)
          (ih (index + 1) seenIds)).congr ?_ ?_
        · rw [List.forall_mem_cons]
          exact (and_iff_right hanswerable).symm
        · refine iff_of_false (fun h => h.1) ?_
          rintro ⟨entries, hentries, -⟩
          cases entries with
          | nil => cases hentries
          | cons entry entries => exact hother entry (List.cons.inj hentries).1

/-- Every word that the validator looks up can be looked up. -/
def Answered : Document φ → Prop
  | .obj members =>
      ∀ assets, get members "assets" = .arr assets → ∀ asset ∈ assets, Answerable asset
  | _ => True

variable {floatEqualsOne : φ → Bool}

theorem versionErrors_eq_nil :
    versionErrors floatEqualsOne members = [] ↔
      equalsOne floatEqualsOne (get members "manifest_version") = true := by
  rw [versionErrors, ite_singleton_eq_nil]

theorem accepted_obj :
    Accepted floatEqualsOne (.obj members) ↔
      equalsOne floatEqualsOne (get members "manifest_version") = true ∧
        ∃ assets, get members "assets" = .arr assets ∧ Lists [] assets := by
  constructor
  · rintro ⟨_, assets, heq, hversion, hassets, hlists⟩
    obtain rfl := Document.obj.inj heq
    exact ⟨hversion, assets, hassets, hlists⟩
  · rintro ⟨hversion, assets, hassets, hlists⟩
    exact ⟨members, assets, rfl, hversion, hassets, hlists⟩

theorem reports_validateManifest (manifest : Document φ) :
    Reports (validateManifest floatEqualsOne manifest) (Answered manifest)
      (Accepted floatEqualsOne manifest) := by
  by_cases hobj : ∃ members, manifest = .obj members
  · obtain ⟨members, rfl⟩ := hobj
    by_cases harr : ∃ assets, get members "assets" = .arr assets
    · obtain ⟨assets, hassets⟩ := harr
      have hversion : versionErrors floatEqualsOne members = [] ↔ _ := versionErrors_eq_nil
      have hreports := Reports.prepend hversion (reports_assets assets 0 [])
      have hvalidate : validateManifest floatEqualsOne (.obj members) =
          bothErrors (.ok (versionErrors floatEqualsOne members)) (assetsErrors 0 [] assets) := by
        simp only [validateManifest, hassets, bothErrors, ok_bind]
      rw [hvalidate]
      refine hreports.congr ?_ ?_
      · simp [Answered, hassets]
      · simp [accepted_obj, hassets]
    · have hvalidate : validateManifest floatEqualsOne (.obj members) =
          .ok (versionErrors floatEqualsOne members ++
            [.ofString "assets must be a JSON array"]) := by
        rw [validateManifest]
        split
        · exact absurd ⟨_, ‹_›⟩ harr
        · rfl
      rw [hvalidate]
      refine (Reports.of_ok (iff_of_false ?_ ?_)).congr (iff_of_true trivial ?_) Iff.rfl
      · simp
      · rw [accepted_obj]
        rintro ⟨-, assets, hassets, -⟩
        exact harr ⟨assets, hassets⟩
      · intro assets hassets
        exact absurd ⟨assets, hassets⟩ harr
  · have hvalidate : validateManifest floatEqualsOne manifest =
        .ok [.ofString "manifest must be a JSON object"] := by
      cases manifest with
      | obj members => exact absurd ⟨members, rfl⟩ hobj
      | _ => rfl
    have hanswered : Answered manifest := by
      cases manifest with
      | obj members => exact absurd ⟨members, rfl⟩ hobj
      | _ => trivial
    rw [hvalidate]
    refine (Reports.of_ok (iff_of_false (List.cons_ne_nil _ _) ?_)).congr
      (iff_of_true trivial hanswered) Iff.rfl
    rintro ⟨members, _, heq, -⟩
    exact hobj ⟨members, heq⟩

/-- The validator answers with the errors of a manifest, and with none exactly for an accepted
one, where every word it looks up can be looked up; elsewhere it raises. The paths it accepts lead
to the fixtures or below them. -/
theorem validateManifest_answers_iff (floatEqualsOne : φ → Bool) (manifest : Document φ) :
    ((∃ errors, validateManifest floatEqualsOne manifest = .ok errors ∧
        (errors = [] ↔ Accepted floatEqualsOne manifest)) ↔ Answered manifest) ∧
      ∀ path, SafePath path → ["apps", "web", "public", "fixtures"].map Text.ofString <+:
        PosixPath.walk slash dot [] path := by
  have hreports : Reports (validateManifest floatEqualsOne manifest) _ _ :=
    reports_validateManifest manifest
  refine ⟨⟨?_, hreports.answer⟩, fun path hsafe => hsafe.below⟩
  rintro ⟨errors, hok, -⟩
  by_contra hnot
  obtain ⟨error, herror⟩ := hreports.raises hnot
  rw [hok] at herror
  cases herror

namespace Demo

def assetPath : Text := .ofString "apps/web/public/fixtures/orbit-ai/orbit-ai-logo.svg"

/-- An entry that may be published if its rights status is supported. -/
def entry (rightsStatus : Document Empty) : Members Empty :=
  [(.ofString "id", .str (.ofString "synthetic-ai-app-static-ad-001")),
    (.ofString "asset_path", .str assetPath),
    (.ofString "sha256",
      .str (.ofString "eb119b7f99219bfbcd228e9cc6456662c596b21a24b871026499751f1905839e")),
    (.ofString "provenance",
      .obj [(.ofString "source_class", .str (.ofString "synthetic_example"))]),
    (.ofString "rights_status", rightsStatus),
    (.ofString "derivative_work_permission", .str (.ofString "permitted")),
    (.ofString "public_display_permission", .str (.ofString "permitted"))]

def manifest (rightsStatus : Document Empty) : Document Empty :=
  .obj [(.ofString "manifest_version", .int 1),
    (.ofString "assets", .arr [.obj (entry rightsStatus)])]

theorem safePath_assetPath : SafePath assetPath := by
  constructor <;> decide

theorem answered_manifest (status : Text) : Answered (manifest (.str status)) := by
  intro assets hassets
  have heq : get [(.ofString "manifest_version", .int 1),
      (.ofString "assets", .arr [.obj (entry (.str status))])] "assets" =
        .arr [.obj (entry (.str status))] := rfl
  obtain rfl := Document.arr.inj (heq.symm.trans hassets)
  intro asset hasset
  obtain rfl := List.mem_singleton.mp hasset
  exact ⟨trivial, trivial, trivial⟩

end Demo

theorem validateManifest_answers_cleared :
    (∃ errors, validateManifest (fun _ => false) (Demo.manifest (.str (.ofString "cleared"))) =
        .ok errors ∧
      (errors = [] ↔
        Accepted (fun _ => false) (Demo.manifest (.str (.ofString "cleared"))))) ∧
    ["apps", "web", "public", "fixtures"].map Text.ofString <+:
      PosixPath.walk slash dot [] Demo.assetPath :=
  have h := validateManifest_answers_iff (fun _ => false)
    (Demo.manifest (.str (.ofString "cleared")))
  ⟨h.1.mpr (Demo.answered_manifest _), h.2 _ Demo.safePath_assetPath⟩

/-- A status that is a list is not reported as unsupported: looking it up raises. -/
theorem not_validateManifest_answers :
    ¬∀ manifest : Document Empty, ∃ errors,
      validateManifest (fun _ => false) manifest = .ok errors ∧
        (errors = [] ↔ Accepted (fun _ => false) manifest) := by
  intro h
  obtain ⟨errors, hok, -⟩ := h (Demo.manifest (.arr [.str (.ofString "cleared")]))
  have hraises : validateManifest (fun _ => false)
      (Demo.manifest (.arr [.str (.ofString "cleared")])) =
        .error ⟨"unhashable type: 'list'"⟩ := rfl
  rw [hraises] at hok
  cases hok

end DemoManifest

end CultureShift
