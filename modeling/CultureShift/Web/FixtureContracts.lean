/-
# Fixtures against the contracts

The validator of the web application and the contracts of the backend check the
same documents. The validator bounds neither texts nor lists, and accepts a
layer without area; these are the only ways in which a fixture that it accepts
can fail the contracts.
-/

import CultureShift.FixtureDemo
import CultureShift.Web.FixtureParts

namespace CultureShift

namespace Web

open Serialization Relational Serialization.Value

/-! ## Texts -/

/-- Text without stray surrogates that has between 1 and `limit` characters once it is
stripped. -/
def Fits (limit : Nat) (value : Value) : Prop :=
  ∃ (content : Text) (sent : String), value = .str content ∧ content.toString? = some sent ∧
    1 ≤ (strip sent).length ∧ (strip sent).length ≤ limit

theorem received_str {limit : Nat} {content : Text} {sent : String}
    (h : content.toString? = some sent) :
    received (BoundedText limit) (.str content) = BoundedText.validate sent := by
  have hdecode : (decode (.str sent) : Option (BoundedText limit)) =
      (decode (.str sent) : Option String).bind BoundedText.validate := rfl
  have hstring : (decode (.str sent) : Option String) = some sent := rfl
  rw [received, toJson?, h, Option.map_some, Option.bind_some, hdecode, hstring, Option.bind_some]

theorem fits_of_received {limit : Nat} {value : Value} {bounded : BoundedText limit}
    (h : received (BoundedText limit) value = some bounded) : Fits limit value := by
  cases value with
  | str content =>
      cases hsent : content.toString? with
      | none =>
          rw [received, toJson?, hsent] at h
          cases h
      | some sent =>
          rw [received_str hsent, BoundedText.validate] at h
          split_ifs at h with hbound
          exact ⟨content, sent, rfl, hsent, hbound⟩
  | number value =>
      obtain ⟨json, hjson, hdecode⟩ := Option.bind_eq_some_iff.mp h
      obtain ⟨n, -, rfl⟩ := Option.map_eq_some_iff.mp hjson
      cases hdecode
  | arr items =>
      obtain ⟨json, hjson, hdecode⟩ := Option.bind_eq_some_iff.mp h
      obtain ⟨jsons, -, rfl⟩ := Option.map_eq_some_iff.mp hjson
      cases hdecode
  | obj members =>
      obtain ⟨json, hjson, hdecode⟩ := Option.bind_eq_some_iff.mp h
      obtain ⟨jsons, -, rfl⟩ := Option.map_eq_some_iff.mp hjson
      cases hdecode
  | _ => cases h

theorem satisfies_boundedText_iff {limit : Nat} {value : Value} :
    Satisfies (BoundedText limit) value ↔ Fits limit value := by
  constructor
  · intro h
    obtain ⟨bounded, hbounded⟩ := Option.isSome_iff_exists.mp h
    exact fits_of_received hbounded
  · rintro ⟨content, sent, rfl, hsent, hbound⟩
    rw [Satisfies, received_str hsent, BoundedText.validate, dif_pos hbound]
    rfl

theorem fits_ofString {limit : Nat} {cs : List Char} (hstripped : isUnpadded cs = true)
    (hlength : 1 ≤ cs.length ∧ cs.length ≤ limit) : Fits limit (.ofString (String.ofList cs)) := by
  refine ⟨_, _, rfl, Text.toString?_ofString _, ?_⟩
  rw [strip_ofList hstripped]
  exact length_ofList hlength

theorem satisfies_ofMember {ε : Type} [StrEnum ε] (member : ε) :
    Satisfies ε (.ofString (StrEnum.value member)) :=
  satisfies_of_toJson? member (toJson?_ofString _)

/-! ## Digests -/

/-- A code point that a class of ASCII characters accepts is that character. -/
theorem ofChar_ofNat {c : CodePoint} (h : Char.ofNat c.val ≠ Char.ofNat 0) :
    CodePoint.ofChar (Char.ofNat c.val) = c := by
  by_cases hvalid : c.val.isValidChar
  · apply Fin.ext
    show (Char.ofNat c.val).toNat = c.val
    rw [Char.ofNat, dif_pos hvalid]
    rfl
  · refine absurd ?_ h
    rw [Char.ofNat, dif_neg hvalid]
    rfl

/-- The character class `[a-f0-9]`. -/
def isLowerHex (c : Char) : Bool := ('a' ≤ c && c ≤ 'f') || isDigit c

theorem toNat_of_isLowerHex {c : Char} (h : isLowerHex c = true) :
    (97 ≤ c.toNat ∧ c.toNat ≤ 102) ∨ 48 ≤ c.toNat ∧ c.toNat ≤ 57 := by
  simp only [isLowerHex, isDigit, Bool.or_eq_true, Bool.and_eq_true, decide_eq_true_iff] at h
  exact h

theorem isSpace_of_isLowerHex {c : Char} (h : isLowerHex c = true) : isSpace c = false := by
  have hrange := toNat_of_isLowerHex h
  simp only [isSpace, Bool.or_eq_false_iff, Bool.and_eq_false_iff, decide_eq_false_iff_not,
    beq_eq_false_iff_ne]
  omega

/-- A digest that the validator accepts meets the contract. -/
theorem exists_sha256 {digest : Text} (h : isSha256 (characters digest) = true) :
    ∃ sha : Sha256, (Value.str digest).toJson? = some (encode sha) := by
  have hclass : ∀ c ∈ characters digest, isLowerHex c = true := by
    rw [isSha256, Bool.and_eq_true, List.all_eq_true] at h
    exact h.2
  have hdigest : Text.ofString (String.ofList (characters digest)) = digest := by
    have hchar : ∀ c ∈ digest, CodePoint.ofChar (Char.ofNat c.val) = id c := by
      intro c hc
      apply ofChar_ofNat
      intro hzero
      have hc' := hclass _ (List.mem_map_of_mem hc)
      rw [hzero] at hc'
      cases hc'
    rw [Text.ofString, String.toList_ofList, characters, List.map_map]
    exact (List.map_congr_left hchar).trans (List.map_id digest)
  have hunpadded : isUnpadded (characters digest) = true := by
    rw [isUnpadded, Bool.and_eq_true, Option.all_eq_true, Option.all_eq_true]
    constructor
    · intro c hc
      rw [isSpace_of_isLowerHex (hclass c (List.mem_of_mem_head? hc))]
      rfl
    · intro c hc
      rw [isSpace_of_isLowerHex (hclass c (List.mem_of_getLast? hc))]
      rfl
  refine ⟨⟨String.ofList (characters digest), strip_ofList hunpadded, accepts_ofList h⟩, ?_⟩
  have hsent := toJson?_ofString (String.ofList (characters digest))
  rw [ofString, hdigest] at hsent
  exact hsent

/-! ## Records -/

theorem satisfies_sourceAdAssetRef_iff {id mediaType digest provenance rights : Value} :
    Satisfies SourceAdAssetRef (.record
        [("asset_id", id), ("kind", .ofString "source_ad"), ("media_type", mediaType),
          ("sha256", digest), ("provenance_ref", provenance), ("rights_ref", rights)]) ↔
      Satisfies UUID id ∧ Satisfies MediaType mediaType ∧ Satisfies Sha256 digest ∧
        Satisfies PublicReference provenance ∧ Satisfies PublicReference rights := by
  simp only [Satisfies, received, toJson?_record, fields?, toJson?_ofString]
  cases id.toJson? with
  | none => simp
  | some id =>
  cases mediaType.toJson? with
  | none => simp
  | some mediaType =>
  cases digest.toJson? with
  | none => simp
  | some digest =>
  cases provenance.toJson? with
  | none => simp
  | some provenance =>
  cases rights.toJson? with
  | none => simp
  | some rights =>
  have hkind : (decode (.str "source_ad") : Option (Codec.Constant "source_ad")) = some ⟨⟩ :=
    Codec.decode_encode _
  have hexpires : (Json.fieldOr [] "expires_at" none : Option (Option Datetime)) = some none := rfl
  simp only [Option.bind_some, Option.map_some]
  show (Option.bind (Json.record _ _) _).isSome = true ↔ _
  rw [Json.record, if_pos (by rfl)]
  simp [Option.isSome_bind, Option.any_eq_true, Option.isSome_iff_exists, hkind, hexpires]

theorem satisfies_runCreate_iff {direction category asset lock : Value} :
    Satisfies RunCreate (.record
        [("direction", direction), ("execution_mode", .ofString "fixture"),
          ("product_category", category), ("creative_format", .ofString "static_ad"),
          ("source_asset", asset), ("brand_lock", lock)]) ↔
      Satisfies LocalizationDirection direction ∧ Satisfies SourceAdAssetRef asset ∧
        Satisfies BrandLock lock ∧ Satisfies ProductCategory category := by
  simp only [Satisfies, received, toJson?_record, fields?, toJson?_ofString]
  cases direction.toJson? with
  | none => simp
  | some direction =>
  cases category.toJson? with
  | none => simp
  | some category =>
  cases asset.toJson? with
  | none => simp
  | some asset =>
  cases lock.toJson? with
  | none => simp
  | some lock =>
  have hformat : (decode (.str "static_ad") : Option (Codec.Constant "static_ad")) = some ⟨⟩ :=
    Codec.decode_encode _
  have hmode : (decode (.str "fixture") : Option ExecutionMode) = some .fixture :=
    Codec.decode_encode ExecutionMode.fixture
  simp only [Option.bind_some, Option.map_some]
  show (Option.bind (Json.record _ _) _).isSome = true ↔ _
  rw [Json.record, if_pos (by rfl)]
  simp [Option.isSome_bind, Option.any_eq_true, Option.isSome_iff_exists, hformat, hmode,
    RunCreate.validate]

theorem satisfies_adCopy_iff {locale headline body label action : Value} :
    Satisfies AdCopy (.record
        [("locale", locale), ("headline", headline), ("body", body), ("cta_label", label),
          ("cta_action_meaning", action)]) ↔
      Satisfies Locale locale ∧ Satisfies ShortText headline ∧ Satisfies LongText body ∧
        Satisfies ShortText label ∧ Satisfies ShortText action := by
  simp only [Satisfies, received, toJson?_record, fields?]
  cases locale.toJson? with
  | none => simp
  | some locale =>
  cases headline.toJson? with
  | none => simp
  | some headline =>
  cases body.toJson? with
  | none => simp
  | some body =>
  cases label.toJson? with
  | none => simp
  | some label =>
  cases action.toJson? with
  | none => simp
  | some action =>
  simp only [Option.bind_some, Option.map_some]
  show (Option.bind (Json.record _ _) _).isSome = true ↔ _
  rw [Json.record_obj (by rfl)]
  simp [Option.isSome_bind, Option.any_eq_true, Option.isSome_iff_exists]

/-- A list whose length is bounded, as the records have them. -/
def SatisfiesList (α : Type) [Codec α] (low high : Nat) (value : Value) : Prop :=
  ∃ values : List α, received (List α) value = some values ∧ low ≤ values.length ∧
    values.length ≤ high

theorem satisfiesList_arr_iff {α : Type} [Codec α] {low high : Nat} {items : List Value} :
    SatisfiesList α low high (.arr items) ↔
      (∀ item ∈ items, Satisfies α item) ∧ low ≤ items.length ∧ items.length ≤ high := by
  constructor
  · rintro ⟨values, hvalues, hbounds⟩
    rw [← (received_arr_eq_some.mp hvalues).length_eq] at hbounds
    exact ⟨satisfies_of_received_arr hvalues, hbounds⟩
  · rintro ⟨hitems, hbounds⟩
    obtain ⟨values, hvalues, hlength⟩ := exists_received_arr hitems
    exact ⟨values, hvalues, by rwa [hlength]⟩

theorem satisfies_culturalHypothesis_iff {id market claim evidence uncertainty rationale
    requirements : Value} :
    Satisfies CulturalHypothesis (.record
        [("hypothesis_id", id), ("target_market", market), ("claim", claim),
          ("evidence_refs", evidence), ("uncertainty", uncertainty), ("rationale", rationale),
          ("validation_requirements", requirements), ("review_status", .ofString "pending")]) ↔
      Satisfies UUID id ∧ Satisfies Market market ∧ Satisfies LongText claim ∧
        SatisfiesList PublicReference 1 32 evidence ∧ Satisfies Uncertainty uncertainty ∧
        Satisfies LongText rationale ∧ SatisfiesList ShortText 1 16 requirements := by
  simp only [Satisfies, SatisfiesList, received, toJson?_record, fields?, toJson?_ofString]
  cases id.toJson? with
  | none => simp
  | some id =>
  cases market.toJson? with
  | none => simp
  | some market =>
  cases claim.toJson? with
  | none => simp
  | some claim =>
  cases evidence.toJson? with
  | none => simp
  | some evidence =>
  cases uncertainty.toJson? with
  | none => simp
  | some uncertainty =>
  cases rationale.toJson? with
  | none => simp
  | some rationale =>
  cases requirements.toJson? with
  | none => simp
  | some requirements =>
  have hstatus : (decode (.str "pending") : Option ReviewStatus) = some .pending :=
    Codec.decode_encode ReviewStatus.pending
  simp only [Option.bind_some, Option.map_some]
  show (Option.bind (Json.record _ _) _).isSome = true ↔ _
  rw [Json.record_obj (by rfl)]
  simp only [Json.field_cons, Json.fieldOr_cons, reduceIte, String.reduceEq, hstatus,
    Option.bind_eq_bind, Option.bind_some]
  simp only [Option.isSome_bind, Option.any_eq_true, Option.isSome_iff_exists]
  constructor
  · rintro ⟨_, hid, _, hmarket, _, hclaim, _, hevidence, _, huncertainty, _, hrationale, _,
      hrequirements, hypothesis, hvalid⟩
    rw [CulturalHypothesis.validate] at hvalid
    split_ifs at hvalid with hlengths
    exact ⟨⟨_, hid⟩, ⟨_, hmarket⟩, ⟨_, hclaim⟩, ⟨_, hevidence, hlengths.1⟩, ⟨_, huncertainty⟩,
      ⟨_, hrationale⟩, _, hrequirements, hlengths.2⟩
  · rintro ⟨⟨_, hid⟩, ⟨_, hmarket⟩, ⟨_, hclaim⟩, ⟨_, hevidence, hreferences⟩, ⟨_, huncertainty⟩,
      ⟨_, hrationale⟩, _, hrequirements, htexts⟩
    exact ⟨_, hid, _, hmarket, _, hclaim, _, hevidence, _, huncertainty, _, hrationale, _,
      hrequirements, _, dif_pos ⟨hreferences, htexts⟩⟩

theorem satisfies_creativeBrief_iff {direction locale lock hypotheses narrative scenario trust :
    Value} :
    Satisfies CreativeBrief (.record
        [("direction", direction), ("target_locale", locale), ("brand_lock", lock),
          ("hypotheses", hypotheses), ("narrative", narrative), ("use_scenario", scenario),
          ("trust_information", trust)]) ↔
      Satisfies LocalizationDirection direction ∧ Satisfies Locale locale ∧
        Satisfies BrandLock lock ∧ SatisfiesList CulturalHypothesis 0 32 hypotheses ∧
        Satisfies LongText narrative ∧ Satisfies LongText scenario ∧ Satisfies LongText trust := by
  simp only [Satisfies, SatisfiesList, received, toJson?_record, fields?]
  cases direction.toJson? with
  | none => simp
  | some direction =>
  cases locale.toJson? with
  | none => simp
  | some locale =>
  cases lock.toJson? with
  | none => simp
  | some lock =>
  cases hypotheses.toJson? with
  | none => simp
  | some hypotheses =>
  cases narrative.toJson? with
  | none => simp
  | some narrative =>
  cases scenario.toJson? with
  | none => simp
  | some scenario =>
  cases trust.toJson? with
  | none => simp
  | some trust =>
  simp only [Option.bind_some, Option.map_some]
  show (Option.bind (Json.record _ _) _).isSome = true ↔ _
  rw [Json.record_obj (by rfl)]
  simp only [Json.field_cons, Json.fieldOr_cons, reduceIte, String.reduceEq, Option.bind_eq_bind,
    Option.bind_some]
  simp only [Option.isSome_bind, Option.any_eq_true, Option.isSome_iff_exists]
  constructor
  · rintro ⟨_, hdirection, _, hlocale, _, hlock, _, hhypotheses, _, hnarrative, _, hscenario, _,
      htrust, brief, hvalid⟩
    rw [CreativeBrief.validate] at hvalid
    split_ifs at hvalid with hlength
    exact ⟨⟨_, hdirection⟩, ⟨_, hlocale⟩, ⟨_, hlock⟩, ⟨_, hhypotheses, Nat.zero_le _, hlength⟩,
      ⟨_, hnarrative⟩, ⟨_, hscenario⟩, _, htrust⟩
  · rintro ⟨⟨_, hdirection⟩, ⟨_, hlocale⟩, ⟨_, hlock⟩, ⟨_, hhypotheses, -, hlength⟩,
      ⟨_, hnarrative⟩, ⟨_, hscenario⟩, _, htrust⟩
    exact ⟨_, hdirection, _, hlocale, _, hlock, _, hhypotheses, _, hnarrative, _, hscenario, _,
      htrust, _, dif_pos hlength⟩

/-! ## Layers -/

/-- The rectangle of a layer has a positive width and height. -/
def HasArea (layer : Value) : Prop :=
  ∃ r : Rectangle, layer.get "bounds" = r.bounds ∧ r.left < r.right ∧ r.top < r.bottom

theorem Rectangle.bounds_injective : Function.Injective Rectangle.bounds := by
  intro first second h
  obtain ⟨left, top, right, bottom⟩ := first
  obtain ⟨left', top', right', bottom'⟩ := second
  simpa [Rectangle.bounds, ofInt] using h

theorem exists_expectedSource (kind : CompositionLayerKind) :
    ∃ source : Option UUID,
      (expectedSource approvedBrandLock (.ofString (StrEnum.value kind))).toJson? =
          some (encode source) ∧
        ((kind = .logo ∨ kind = .productUi) ↔ source.isSome = true) := by
  cases kind with
  | logo => exact ⟨some Demo.logoId, rfl, by simp⟩
  | productUi => exact ⟨some Demo.uiId, rfl, by simp⟩
  | _ => exact ⟨none, rfl, by simp⟩

theorem received_layerOf {kind : CompositionLayerKind} {source : Option UUID} {digest : Text}
    {sha : Sha256} {r : Rectangle} {width height : Int}
    (hsource : (expectedSource approvedBrandLock (.ofString (StrEnum.value kind))).toJson? =
      some (encode source))
    (hdigest : (Value.str digest).toJson? = some (encode sha)) :
    received CompositionLayer
        (layerOf approvedBrandLock (StrEnum.value kind) digest r width height) =
      CompositionLayer.validate kind source sha [r.left, r.top, r.right, r.bottom] width
        height := by
  have hbounds : r.bounds.toJson? = some (encode [r.left, r.top, r.right, r.bottom]) := rfl
  have hwidth : (ofInt width).toJson? = some (encode width) := rfl
  have hheight : (ofInt height).toJson? = some (encode height) := rfl
  have hkind : (ofString (StrEnum.value kind)).toJson? = some (encode kind) := toJson?_ofString _
  rw [layerOf, received, toJson?_record]
  simp only [fields?, hkind, hsource, hdigest, hbounds, hwidth, hheight, Option.bind_some,
    Option.map_some]
  show Option.bind (Json.record _ _) _ = _
  rw [Json.record_obj (by rfl)]
  simp

variable {kind : CompositionLayerKind} {rawLayer layer : Value}

/-- A layer without area is refused by the contract, whatever the validator says. -/
theorem hasArea_of_received {contract : CompositionLayer}
    (h : compositionLayer approvedBrandLock rawLayer (StrEnum.value kind) = .ok layer)
    (hreceived : received CompositionLayer layer = some contract) : HasArea rawLayer := by
  obtain ⟨digest, r, width, height, hsha, hbounds, -, -, -, rfl⟩ := compositionLayer_eq_ok h
  obtain ⟨sha, hdigest⟩ := exists_sha256 hsha
  obtain ⟨source, hsource, -⟩ := exists_expectedSource kind
  rw [received_layerOf hsource hdigest, CompositionLayer.validate] at hreceived
  split_ifs at hreceived with hvalid
  obtain ⟨-, -, -, -, -, -, -, hwide, htall, -⟩ := hvalid
  exact ⟨r, hbounds, hwide, htall⟩

/-- On the canvas, a layer with an area is a layer of the contract. -/
theorem exists_received_of_hasArea
    (h : compositionLayer approvedBrandLock rawLayer (StrEnum.value kind) = .ok layer)
    (harea : HasArea rawLayer) :
    ∃ contract, received CompositionLayer layer = some contract ∧ contract.kind = kind := by
  obtain ⟨digest, r, width, height, hsha, hbounds, ⟨hleft, htop, hright, hbottom⟩, hwidth, hheight,
    rfl⟩ := compositionLayer_eq_ok h
  obtain ⟨r', hbounds', hwide, htall⟩ := harea
  obtain rfl := Rectangle.bounds_injective (hbounds.symm.trans hbounds')
  obtain ⟨sha, hdigest⟩ := exists_sha256 hsha
  obtain ⟨source, hsource, hpresent⟩ := exists_expectedSource kind
  rw [Number.round_of_lt (by omega), Option.some.injEq] at hwidth hheight
  have hvalid : ValidLayer kind source r.left r.top r.right r.bottom width height :=
    ⟨hpresent, by omega, by omega, hleft, htop, hright, hbottom, hwide, htall, hwidth, hheight⟩
  refine ⟨_, (received_layerOf hsource hdigest).trans (dif_pos hvalid), rfl⟩

theorem hasArea_of_received_layers {kinds : List CompositionLayerKind}
    {rawLayers layers : List Value} {contracts : List CompositionLayer}
    (hlength : rawLayers.length = kinds.length)
    (h : compositionLayers approvedBrandLock rawLayers (kinds.map StrEnum.value) = .ok layers)
    (hreceived : received (List CompositionLayer) (.arr layers) = some contracts) :
    ∀ rawLayer ∈ rawLayers, HasArea rawLayer := by
  induction kinds generalizing rawLayers layers contracts with
  | nil =>
      rw [List.length_eq_zero_iff.mp hlength]
      exact List.forall_mem_nil _
  | cons kind kinds ih =>
      cases rawLayers with
      | nil => cases hlength
      | cons rawLayer rawLayers =>
          simp only [List.map_cons, compositionLayers, bind_eq_ok] at h
          obtain ⟨layer, hlayer, rest, hrest, hlayers⟩ := h
          cases hlayers
          rw [received_arr_eq_some] at hreceived
          cases hreceived with
          | cons hfirst htail =>
              have harea := hasArea_of_received hlayer hfirst
              have hrest := ih (Nat.succ.inj hlength) hrest (received_arr_eq_some.mpr htail)
              exact List.forall_mem_cons.mpr ⟨harea, hrest⟩

theorem exists_received_layers {kinds : List CompositionLayerKind} {rawLayers layers : List Value}
    (hlength : rawLayers.length = kinds.length)
    (h : compositionLayers approvedBrandLock rawLayers (kinds.map StrEnum.value) = .ok layers)
    (harea : ∀ rawLayer ∈ rawLayers, HasArea rawLayer) :
    ∃ contracts, received (List CompositionLayer) (.arr layers) = some contracts ∧
      contracts.map CompositionLayer.kind = kinds := by
  induction kinds generalizing rawLayers layers with
  | nil =>
      rw [List.length_eq_zero_iff.mp hlength] at h
      cases h
      exact ⟨[], rfl, rfl⟩
  | cons kind kinds ih =>
      cases rawLayers with
      | nil => cases hlength
      | cons rawLayer rawLayers =>
          simp only [List.map_cons, compositionLayers, bind_eq_ok] at h
          obtain ⟨layer, hlayer, rest, hrest, hlayers⟩ := h
          cases hlayers
          obtain ⟨hfirst, htail⟩ := List.forall_mem_cons.mp harea
          obtain ⟨contract, hcontract, hkind⟩ := exists_received_of_hasArea hlayer hfirst
          obtain ⟨contracts, hcontracts, hkinds⟩ := ih (Nat.succ.inj hlength) hrest htail
          rw [received_arr_eq_some] at hcontracts
          refine ⟨contract :: contracts, received_arr_eq_some.mpr (.cons hcontract hcontracts), ?_⟩
          rw [List.map_cons, hkind, hkinds]

/-! ## The bundle -/

/-- The parts of the bundle that the contracts of the backend describe meet them, and the
layers stand in the order of the contract. -/
structure FixtureBundle.Conforms (bundle : FixtureBundle) : Prop where
  request : Satisfies RunCreate bundle.request
  brief : Satisfies CreativeBrief bundle.draft.brief
  adCopy : Satisfies AdCopy bundle.draft.adCopy
  layers : ∃ layers : List CompositionLayer,
    received (List CompositionLayer) (.arr bundle.composition.layers) = some layers ∧
      ValidLayerOrder layers

/-- The texts and lists of a hypothesis have the lengths of the contract. -/
def BoundedHypothesis (hypothesis : Value) : Prop :=
  Fits 4000 (hypothesis.get "claim") ∧ Fits 4000 (hypothesis.get "rationale") ∧
    (hypothesis.get "validation_requirements").items.length ≤ 16 ∧
    ∀ requirement ∈ (hypothesis.get "validation_requirements").items, Fits 256 requirement

/-- What the validator does not check of a fixture. -/
structure Bounded (raw : Value) : Prop where
  narrative : Fits 4000 (raw.path ["draft", "brief", "narrative"])
  useScenario : Fits 4000 (raw.path ["draft", "brief", "use_scenario"])
  hypotheses : ∀ hypothesis ∈ (raw.path ["preview", "hypotheses"]).items,
    BoundedHypothesis hypothesis
  headline : Fits 256 (raw.path ["draft", "copy", "headline"])
  body : Fits 4000 (raw.path ["draft", "copy", "body"])
  ctaLabel : Fits 256 (raw.path ["draft", "copy", "cta_label"])
  layers : ∀ layer ∈ (raw.path ["composition", "layers"]).items, HasArea layer

theorem toJson?_approvedBrandLock : approvedBrandLock.toJson? = some (encode Demo.lock) := by
  simp only [approvedBrandLock, toJson?_record, fields?, toJson?_ofString, toJson?,
    toJsonItems?_cons, toJsonItems?_nil, Option.bind_some, Option.map_some]
  rfl

theorem satisfies_approvedBrandLock : Satisfies BrandLock approvedBrandLock :=
  satisfies_of_toJson? Demo.lock toJson?_approvedBrandLock

theorem satisfies_pattern {accepts : List Char → Bool} {cs : List Char}
    (hstripped : isUnpadded cs = true) (haccepts : accepts cs = true) :
    Satisfies (PatternText accepts) (.ofString (String.ofList cs)) :=
  satisfies_of_toJson?
    (⟨String.ofList cs, strip_ofList hstripped, accepts_ofList haccepts⟩ : PatternText accepts)
    (toJson?_ofString _)

theorem satisfies_uuid {text : String} (id : UUID) (h : id.text = text) :
    Satisfies UUID (.ofString text) := by
  subst h
  exact satisfies_of_toJson? id (toJson?_ofString _)

theorem satisfies_sourceAsset (fixtureId : FixtureId) :
    Satisfies SourceAdAssetRef (approvedSourceByFixture fixtureId).sourceAsset := by
  cases fixtureId with
  | chinaToUk =>
      apply satisfies_sourceAdAssetRef_iff.mpr
      exact ⟨satisfies_uuid ⟨0xb1111111111141118111111111111111, by decide⟩ (by rfl),
        satisfies_pattern (by decide) (by decide), satisfies_pattern (by decide) (by decide),
        satisfies_pattern (by decide) (by decide), satisfies_pattern (by decide) (by decide)⟩
  | ukToChina =>
      apply satisfies_sourceAdAssetRef_iff.mpr
      exact ⟨satisfies_uuid ⟨0xb2222222222242228222222222222222, by decide⟩ (by rfl),
        satisfies_pattern (by decide) (by decide), satisfies_pattern (by decide) (by decide),
        satisfies_pattern (by decide) (by decide), satisfies_pattern (by decide) (by decide)⟩

theorem satisfies_approvedRequest (fixtureId : FixtureId) (category : ProductCategory) :
    Satisfies RunCreate (approvedRequest fixtureId (StrEnum.value category)) := by
  apply satisfies_runCreate_iff.mpr
  refine ⟨?_, satisfies_sourceAsset fixtureId, satisfies_approvedBrandLock,
    satisfies_ofMember category⟩
  cases fixtureId with
  | chinaToUk => exact satisfies_ofMember LocalizationDirection.chinaToUk
  | ukToChina => exact satisfies_ofMember LocalizationDirection.ukToChina

theorem satisfies_targetLocale (fixtureId : FixtureId) :
    Satisfies Locale (.ofString (expectation fixtureId).targetLocale) := by
  cases fixtureId with
  | chinaToUk => exact satisfies_ofMember Locale.enGB
  | ukToChina => exact satisfies_ofMember Locale.zhCN

theorem satisfies_direction (fixtureId : FixtureId) :
    Satisfies LocalizationDirection (.ofString (approvedSourceByFixture fixtureId).direction) := by
  cases fixtureId with
  | chinaToUk => exact satisfies_ofMember LocalizationDirection.chinaToUk
  | ukToChina => exact satisfies_ofMember LocalizationDirection.ukToChina

theorem satisfies_hypothesisId (fixtureId : FixtureId) :
    Satisfies UUID (.ofString (expectation fixtureId).hypothesisId) := by
  cases fixtureId with
  | chinaToUk => exact satisfies_uuid ⟨0xc1111111111141118111111111111111, by decide⟩ (by rfl)
  | ukToChina => exact satisfies_uuid ⟨0xc2222222222242228222222222222222, by decide⟩ (by rfl)

theorem satisfies_targetMarket (fixtureId : FixtureId) :
    Satisfies Market (.ofString (expectation fixtureId).targetMarket) := by
  cases fixtureId with
  | chinaToUk => exact satisfies_ofMember Market.unitedKingdom
  | ukToChina => exact satisfies_ofMember Market.china

theorem satisfies_hypothesisEvidence (fixtureId : FixtureId) :
    Satisfies PublicReference (.ofString (expectation fixtureId).hypothesisEvidence) := by
  cases fixtureId with
  | chinaToUk => exact satisfies_pattern (by decide) (by decide)
  | ukToChina => exact satisfies_pattern (by decide) (by decide)

theorem satisfies_uncertainty {uncertainty : String}
    (h : uncertainty ∈ ["low", "medium", "high"]) :
    Satisfies Uncertainty (.ofString uncertainty) := by
  simp only [List.mem_cons, List.not_mem_nil, or_false] at h
  rcases h with rfl | rfl | rfl
  · exact satisfies_ofMember Uncertainty.low
  · exact satisfies_ofMember Uncertainty.medium
  · exact satisfies_ofMember Uncertainty.high

theorem fits_disclosure : Fits 4000 (.ofString disclosure) :=
  fits_ofString (by decide) (by decide)

theorem fits_ctaActionMeaning : Fits 256 (approvedBrandLock.get "cta_action_meaning") := by
  have haction : approvedBrandLock.get "cta_action_meaning" = .ofString "Start a fixture demo" := by
    simp [approvedBrandLock]
  rw [haction]
  exact fits_ofString (by decide) (by decide)

/-- Of a hypothesis, only its texts can fail the contract. -/
theorem satisfies_hypothesisOf_iff (fixtureId : FixtureId) {uncertainty : String}
    (huncertainty : uncertainty ∈ ["low", "medium", "high"]) {claim rationale : Text}
    {requirements : List Text} (hne : requirements ≠ []) :
    Satisfies CulturalHypothesis
        (hypothesisOf (expectation fixtureId).targetMarket (expectation fixtureId).hypothesisId
          (expectation fixtureId).hypothesisEvidence uncertainty claim rationale requirements) ↔
      Fits 4000 (.str claim) ∧ Fits 4000 (.str rationale) ∧ requirements.length ≤ 16 ∧
        ∀ requirement ∈ (texts requirements).items, Fits 256 requirement := by
  have hevidence : SatisfiesList PublicReference 1 32
      (texts [Text.ofString (expectation fixtureId).hypothesisEvidence]) :=
    satisfiesList_arr_iff.mpr
      ⟨List.forall_mem_singleton.mpr (satisfies_hypothesisEvidence fixtureId), by simp⟩
  have hrequirements : SatisfiesList ShortText 1 16 (texts requirements) ↔
      requirements.length ≤ 16 ∧
        ∀ requirement ∈ (texts requirements).items, Fits 256 requirement := by
    have hpos := List.length_pos_iff.mpr hne
    rw [texts, satisfiesList_arr_iff, List.length_map]
    simp only [satisfies_boundedText_iff, items]
    constructor
    · exact fun h => ⟨h.2.2, h.1⟩
    · exact fun h => ⟨h.2, hpos, h.1⟩
  rw [hypothesisOf, satisfies_culturalHypothesis_iff, satisfies_boundedText_iff,
    satisfies_boundedText_iff, hrequirements]
  constructor
  · rintro ⟨-, -, hclaim, -, -, hrationale, hrequire⟩
    exact ⟨hclaim, hrationale, hrequire⟩
  · rintro ⟨hclaim, hrationale, hrequire⟩
    exact ⟨satisfies_hypothesisId fixtureId, satisfies_targetMarket fixtureId, hclaim, hevidence,
      satisfies_uncertainty huncertainty, hrationale, hrequire⟩

/-! ## The validator against the contracts -/

variable {raw : Value} {fixtureId : FixtureId} {bundle : FixtureBundle}

theorem request_of_validateFixture (h : validateFixture raw fixtureId = .ok bundle) :
    Satisfies RunCreate bundle.request ∧
      bundle.request.get "direction" =
        .ofString (approvedSourceByFixture fixtureId).direction ∧
      bundle.request.get "brand_lock" = approvedBrandLock := by
  rcases (validateFixture_eq_ok h).1 with hrequest | hrequest
  · rw [hrequest]
    exact ⟨satisfies_approvedRequest fixtureId .aiSoftware, by simp [approvedRequest],
      by simp [approvedRequest]⟩
  · rw [hrequest]
    exact ⟨satisfies_approvedRequest fixtureId .aiApplication, by simp [approvedRequest],
      by simp [approvedRequest]⟩

theorem adCopy_satisfies_iff (h : validateFixture raw fixtureId = .ok bundle) :
    Satisfies AdCopy bundle.draft.adCopy ↔
      Fits 256 (raw.path ["draft", "copy", "headline"]) ∧
        Fits 4000 (raw.path ["draft", "copy", "body"]) ∧
        Fits 256 (raw.path ["draft", "copy", "cta_label"]) := by
  obtain ⟨-, -, hlock⟩ := request_of_validateFixture h
  obtain ⟨-, -, localized, rules, observed, -, hdraft⟩ := validateFixture_eq_ok h
  obtain ⟨-, -, headline, body, label, -, -, hheadline, hbody, hlabel, -, hcopy⟩ :=
    validateDraft_eq_ok hdraft
  have hpath : raw.path ["draft", "copy", "headline"] = .str headline ∧
      raw.path ["draft", "copy", "body"] = .str body ∧
      raw.path ["draft", "copy", "cta_label"] = .str label := ⟨hheadline, hbody, hlabel⟩
  rw [hcopy, hlock, satisfies_adCopy_iff, hpath.1, hpath.2.1, hpath.2.2]
  simp only [satisfies_boundedText_iff]
  constructor
  · rintro ⟨-, hheadline, hbody, hlabel, -⟩
    exact ⟨hheadline, hbody, hlabel⟩
  · rintro ⟨hheadline, hbody, hlabel⟩
    exact ⟨satisfies_targetLocale fixtureId, hheadline, hbody, hlabel, fits_ctaActionMeaning⟩

theorem brief_satisfies_iff (h : validateFixture raw fixtureId = .ok bundle) :
    Satisfies CreativeBrief bundle.draft.brief ↔
      Fits 4000 (raw.path ["draft", "brief", "narrative"]) ∧
        Fits 4000 (raw.path ["draft", "brief", "use_scenario"]) ∧
        ∀ hypothesis ∈ (raw.path ["preview", "hypotheses"]).items,
          BoundedHypothesis hypothesis := by
  obtain ⟨-, hdirection, -⟩ := request_of_validateFixture h
  obtain ⟨-, -, localized, rules, observed, hobserved, hdraft⟩ := validateFixture_eq_ok h
  obtain ⟨item, hypothesis, hitems, rfl, hitem⟩ := hypotheses_eq_ok hobserved
  obtain ⟨uncertainty, huncertainty, claim, rationale, requirements, hclaim, hrationale, hrequire,
    hne, rfl⟩ := hypothesis_eq_ok hitem
  obtain ⟨narrative, scenario, -, -, -, hnarrative, hscenario, -, -, -, hbrief, -⟩ :=
    validateDraft_eq_ok hdraft
  have hpath : raw.path ["draft", "brief", "narrative"] = .str narrative ∧
      raw.path ["draft", "brief", "use_scenario"] = .str scenario := ⟨hnarrative, hscenario⟩
  have hlength : (texts requirements).items.length = requirements.length := by
    rw [texts, items, List.length_map]
  rw [hbrief, hdirection, satisfies_creativeBrief_iff, satisfiesList_arr_iff, hpath.1, hpath.2,
    hitems, items, List.forall_mem_singleton, List.forall_mem_singleton, BoundedHypothesis, hclaim,
    hrationale, hrequire, hlength, satisfies_hypothesisOf_iff fixtureId huncertainty hne]
  simp only [satisfies_boundedText_iff]
  constructor
  · rintro ⟨-, -, -, ⟨hhypothesis, -⟩, hnarrative, hscenario, -⟩
    exact ⟨hnarrative, hscenario, hhypothesis⟩
  · rintro ⟨hnarrative, hscenario, hhypothesis⟩
    exact ⟨satisfies_direction fixtureId, satisfies_targetLocale fixtureId,
      satisfies_approvedBrandLock, ⟨hhypothesis, by simp⟩, hnarrative, hscenario, fits_disclosure⟩

theorem layers_satisfy_iff (h : validateFixture raw fixtureId = .ok bundle) :
    (∃ layers : List CompositionLayer,
        received (List CompositionLayer) (.arr bundle.composition.layers) = some layers ∧
          ValidLayerOrder layers) ↔
      ∀ layer ∈ (raw.path ["composition", "layers"]).items, HasArea layer := by
  obtain ⟨-, hcomposition, -⟩ := validateFixture_eq_ok h
  obtain ⟨rawLayers, hlayers, hseven, hcomposed⟩ := compositionEvidence_eq_ok hcomposition
  let kinds : List CompositionLayerKind :=
    [.background, .productUi, .logo, .headline, .body, .cta, .disclosure]
  have hlength : rawLayers.length = kinds.length := hseven
  have hpath : raw.path ["composition", "layers"] = .arr rawLayers := hlayers
  rw [hpath, items]
  constructor
  · rintro ⟨layers, hreceived, -⟩
    exact hasArea_of_received_layers hlength hcomposed hreceived
  · intro harea
    obtain ⟨layers, hreceived, hkinds⟩ := exists_received_layers hlength hcomposed harea
    exact ⟨layers, hreceived, Or.inl hkinds⟩

/-- A fixture that the validator accepts conforms to the contracts of the backend exactly
when its texts and lists are bounded and its layers have an area. -/
theorem conforms_iff_bounded (raw : Value) (fixtureId : FixtureId) (bundle : FixtureBundle)
    (h : validateFixture raw fixtureId = .ok bundle) : bundle.Conforms ↔ Bounded raw := by
  have hcopy := adCopy_satisfies_iff h
  have hbrief := brief_satisfies_iff h
  have hlayers := layers_satisfy_iff h
  constructor
  · intro hconforms
    obtain ⟨hheadline, hbody, hlabel⟩ := hcopy.mp hconforms.adCopy
    obtain ⟨hnarrative, hscenario, hhypotheses⟩ := hbrief.mp hconforms.brief
    exact ⟨hnarrative, hscenario, hhypotheses, hheadline, hbody, hlabel,
      hlayers.mp hconforms.layers⟩
  · intro hbounded
    exact ⟨(request_of_validateFixture h).1,
      hbrief.mpr ⟨hbounded.narrative, hbounded.useScenario, hbounded.hypotheses⟩,
      hcopy.mpr ⟨hbounded.headline, hbounded.body, hbounded.ctaLabel⟩,
      hlayers.mpr hbounded.layers⟩

namespace OrbitFixture

/-- A layer that fills its bounds. -/
def layerAt (kind : String) (source : Value) (left top right bottom : Int) : Value :=
  .record
    [("kind", .ofString kind), ("source_asset_id", source),
      ("rgba_sha256", .str (List.replicate 64 (CodePoint.ofChar 'a'))),
      ("bounds", .arr [.ofInt left, .ofInt top, .ofInt right, .ofInt bottom]),
      ("width", .ofInt (right - left)), ("height", .ofInt (bottom - top))]

def composition (right : Int) : Value :=
  .record
    [("execution_mode", .ofString "fixture"), ("width", .ofInt 1600), ("height", .ofInt 900),
      ("media_type", .ofString "image/png"),
      ("preview_path", .ofString "/fixtures/orbit-ai/composed-china-to-uk.png"),
      ("rendered_sha256",
        .ofString "39d3233aa64533558579a5d9ad0ff345105555ea4ae69dfd8c26f5faaddb0d15"),
      ("background_provenance", .ofString "fixture:day12-background-china_to_uk"),
      ("layers", .arr
        [layerAt "background" .null 0 0 1600 900,
          layerAt "product_ui" (.ofString "a2222222-2222-4222-8222-222222222222") 850 170 1500 615,
          layerAt "logo" (.ofString "a1111111-1111-4111-8111-111111111111") 100 70 320 143,
          layerAt "headline" .null 100 220 right 344, layerAt "body" .null 100 390 780 476,
          layerAt "cta" .null 100 560 430 636, layerAt "disclosure" .null 100 820 530 864]),
      ("font", .record approvedFont), ("disclosure", .ofString disclosure),
      ("limitation", .ofString
        "Fixture-only composition; human review required")]

def request : Value :=
  .record
    [("direction", .ofString "china_to_uk"), ("execution_mode", .ofString "fixture"),
      ("source_asset", (approvedSourceByFixture .chinaToUk).sourceAsset),
      ("brand_lock", approvedBrandLock), ("product_category", .ofString "ai_software"),
      ("creative_format", .ofString "static_ad")]

def hypotheses : Value :=
  .arr [.record
    [("hypothesis_id", .ofString "c1111111-1111-4111-8111-111111111111"),
      ("target_market", .ofString "united_kingdom"), ("claim", .ofString "Framing"),
      ("evidence_refs", .arr [.ofString "evidence:day3-zeu-h1"]),
      ("uncertainty", .ofString "high"), ("rationale", .ofString "Drafting"),
      ("validation_requirements", .arr [.ofString "Review"]),
      ("review_status", .ofString "pending")]]

def adCopy : Value :=
  .record
    [("locale", .ofString "en-GB"), ("headline", .ofString "Tasks"),
      ("body", .ofString "Notes"),
      ("cta_label", .ofString "Try"),
      ("cta_action_meaning", .ofString "Start a fixture demo")]

def ruleIds : Value := .arr [.ofString "ZEU-S1", .ofString "ZEU-S3"]

def draft : Value :=
  .record
    [("brief", .record
        [("direction", .ofString "china_to_uk"), ("target_locale", .ofString "en-GB"),
          ("brand_lock", approvedBrandLock), ("hypotheses", hypotheses),
          ("narrative", .ofString "Workflow"),
          ("use_scenario", .ofString "Team"),
          ("trust_information", .ofString disclosure)]),
      ("copy", adCopy), ("rule_ids", ruleIds),
      ("prompt_summary", .ofString (expectation .chinaToUk).requiredPrompt)]

def preview : Value :=
  .record
    [("source_asset_path", .ofString "/fixtures/orbit-ai/source-zh-cn.svg"),
      ("logo_asset_path", .ofString "/fixtures/orbit-ai/logo.svg"),
      ("product_ui_asset_path", .ofString "/fixtures/orbit-ai/ui.svg"),
      ("source_copy", .record [("headline", .ofString "笔记"), ("body", .ofString "任务摘要")]),
      ("localized_copy", adCopy), ("brand_lock", approvedBrandLock), ("rule_ids", ruleIds),
      ("hypotheses", hypotheses), ("warnings", .arr [.ofString "HUMAN_REVIEW_REQUIRED"]),
      ("limitation", .ofString
        "Not cultural, legal, or performance validation")]

/-- A fixture from China to the UK whose headline ends at `right`. -/
def fixture (right : Int) : Value :=
  .record
    [("fixture_id", .ofString "china-to-uk"), ("disclosure", .ofString disclosure),
      ("source_locale", .ofString "zh-CN"), ("target_locale", .ofString "en-GB"),
      ("request", request), ("draft", draft), ("composition", composition right),
      ("preview", preview)]

theorem isOk_validateFixture : ∀ right ∈ ([100, 760] : List Int),
    (validateFixture (fixture right) .chinaToUk).isOk = true := by
  decide +kernel

theorem exists_accepted (right : Int) (hright : right ∈ ([100, 760] : List Int)) :
    ∃ bundle, validateFixture (fixture right) .chinaToUk = .ok bundle := by
  have hok := isOk_validateFixture right hright
  cases hresult : validateFixture (fixture right) .chinaToUk with
  | ok bundle => exact ⟨bundle, rfl⟩
  | error message =>
      rw [hresult] at hok
      cases hok

theorem hasArea_layerAt {kind : String} {source : Value} {left top right bottom : Int} :
    HasArea (layerAt kind source left top right bottom) ↔ left < right ∧ top < bottom := by
  have hbounds : (layerAt kind source left top right bottom).get "bounds" =
      (Rectangle.mk left top right bottom).bounds := by
    simp [layerAt, Rectangle.bounds]
  rw [HasArea, hbounds]
  constructor
  · rintro ⟨r, heq, harea⟩
    obtain rfl := Rectangle.bounds_injective heq
    exact harea
  · intro harea
    exact ⟨_, rfl, harea⟩

theorem layers_fixture {right : Int} : (fixture right).path ["composition", "layers"] =
    .arr
      [layerAt "background" .null 0 0 1600 900,
        layerAt "product_ui" (.ofString "a2222222-2222-4222-8222-222222222222") 850 170 1500 615,
        layerAt "logo" (.ofString "a1111111-1111-4111-8111-111111111111") 100 70 320 143,
        layerAt "headline" .null 100 220 right 344, layerAt "body" .null 100 390 780 476,
        layerAt "cta" .null 100 560 430 636, layerAt "disclosure" .null 100 820 530 864] := by
  simp [fixture, composition, Value.path]

theorem bounded_fixture : Bounded (fixture 760) where
  narrative := by
    simp only [fixture, draft, path, List.foldl, get_record_cons, reduceIte, String.reduceEq]
    exact fits_ofString (by decide) (by decide)
  useScenario := by
    simp only [fixture, draft, path, List.foldl, get_record_cons, reduceIte, String.reduceEq]
    exact fits_ofString (by decide) (by decide)
  hypotheses := by
    simp only [fixture, preview, hypotheses, path, List.foldl, get_record_cons, reduceIte,
      String.reduceEq, items, List.forall_mem_singleton, BoundedHypothesis]
    exact ⟨fits_ofString (by decide) (by decide), fits_ofString (by decide) (by decide), by simp,
      fits_ofString (by decide) (by decide)⟩
  headline := by
    simp only [fixture, draft, adCopy, path, List.foldl, get_record_cons, reduceIte,
      String.reduceEq]
    exact fits_ofString (by decide) (by decide)
  body := by
    simp only [fixture, draft, adCopy, path, List.foldl, get_record_cons, reduceIte,
      String.reduceEq]
    exact fits_ofString (by decide) (by decide)
  ctaLabel := by
    simp only [fixture, draft, adCopy, path, List.foldl, get_record_cons, reduceIte,
      String.reduceEq]
    exact fits_ofString (by decide) (by decide)
  layers := by
    rw [layers_fixture]
    simp [items, hasArea_layerAt]

/-- The fixture of the demo conforms. -/
theorem conforms_fixture :
    ∃ bundle, validateFixture (fixture 760) .chinaToUk = .ok bundle ∧ bundle.Conforms := by
  obtain ⟨bundle, hbundle⟩ := exists_accepted 760 (by decide)
  exact ⟨bundle, hbundle, (conforms_iff_bounded _ _ bundle hbundle).mpr bounded_fixture⟩

/-- A fixture whose headline has no width is accepted, and does not conform. -/
theorem not_conforms : ¬∀ (raw : Value) (fixtureId : FixtureId) (bundle : FixtureBundle),
    validateFixture raw fixtureId = .ok bundle → bundle.Conforms := by
  intro hall
  obtain ⟨bundle, hbundle⟩ := exists_accepted 100 (by decide)
  have hlayers := (layers_satisfy_iff hbundle).mp (hall _ _ _ hbundle).layers
  rw [layers_fixture] at hlayers
  simp [items, hasArea_layerAt] at hlayers

end OrbitFixture

end Web

end CultureShift
