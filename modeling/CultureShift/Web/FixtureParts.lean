/-
# What the fixture validator accepts

For each part of a fixture, what a check that succeeds says about the value it
was given and about the value it returns. The request, the Brand Lock and the
identifiers come back as the approved constants; only texts, rectangles and
digests still depend on the fixture.
-/

import CultureShift.Web.FixtureValidation

namespace CultureShift

namespace Web

open Serialization Relational

variable {value result : Value} {code : String}

/-! ## Equality -/

theorem same_str {t : Text} : same value (.str t) = true ↔ value = .str t := by
  cases value <;> simp [same]

theorem same_ofString {text : String} :
    same value (.ofString text) = true ↔ value = .ofString text := same_str

theorem structuralEqual_str {t : Text} :
    structuralEqual value (.str t) = true ↔ value = .str t := by
  cases value <;> simp [structuralEqual, same]

theorem structuralEqualItems_strs {items : List Value} {ts : List Text} :
    structuralEqualItems items (ts.map .str) = true ↔ items = ts.map .str := by
  induction ts generalizing items with
  | nil => cases items <;> simp [structuralEqualItems]
  | cons t ts ih => cases items <;> simp [structuralEqualItems, structuralEqual_str, ih]

theorem structuralEqual_texts {ts : List Text} :
    structuralEqual value (texts ts) = true ↔ value = texts ts := by
  cases value <;> simp [texts, structuralEqual, same, structuralEqualItems_strs]

theorem ofString_injective : Function.Injective Text.ofString := by
  intro first second h
  have hsent := congrArg Text.toString? h
  rw [Text.toString?_ofString, Text.toString?_ofString] at hsent
  exact Option.some.inj hsent

@[simp]
theorem get_record_cons {name field : String} {fields : List (String × Value)} :
    (Value.record ((field, value) :: fields)).get name =
      if name = field then value else (Value.record fields).get name := by
  by_cases h : name = field
  · simp [Value.record, Value.get, Value.lookup, h]
  · have hne : Text.ofString name ≠ Text.ofString field := fun heq => h (ofString_injective heq)
    simp [Value.record, Value.get, Value.lookup, List.lookup_cons, h, beq_eq_false_iff_ne.mpr hne]

theorem structuralEqualMembers_lookup {left right : List (Text × Value)}
    (h : structuralEqualMembers left right = true) {key : Text} (hkey : key ∈ left.map Prod.fst) :
    structuralEqual (Value.lookup left key) (Value.lookup right key) = true := by
  induction left with
  | nil => cases hkey
  | cons member left ih =>
      obtain ⟨name, value⟩ := member
      rw [structuralEqualMembers, Bool.and_eq_true] at h
      by_cases heq : key = name
      · subst heq
        simpa [Value.lookup] using h.1
      · have htail : key ∈ left.map Prod.fst := by simpa [heq] using hkey
        simpa [Value.lookup, List.lookup_cons, beq_eq_false_iff_ne.mpr heq] using ih h.2 htail

/-- Objects that are equal have equal fields. -/
theorem structuralEqual_get {fields : List (String × Value)}
    (h : structuralEqual value (.record fields) = true) {name : String}
    (hname : name ∈ fields.map Prod.fst) :
    structuralEqual (value.get name) ((Value.record fields).get name) = true := by
  cases value with
  | obj members =>
      rw [Value.record, structuralEqual, Bool.and_eq_true, sameKeys, List.isPerm_iff] at h
      obtain ⟨hkeys, hmembers⟩ := h
      apply structuralEqualMembers_lookup hmembers
      obtain ⟨field, hfield, rfl⟩ := List.mem_map.mp hname
      rw [hkeys.mem_iff, List.map_map]
      exact List.mem_map.mpr ⟨field, hfield, rfl⟩
  | _ => simp [Value.record, structuralEqual, same] at h

/-- Strings and arrays of strings: values that are equal when their contents are. -/
inductive IsFlat : Value → Prop
  | str (t : Text) : IsFlat (.str t)
  | texts (ts : List Text) : IsFlat (texts ts)

theorem IsFlat.ofString (text : String) : IsFlat (.ofString text) := .str _

theorem IsFlat.ofStrings (values : List String) : IsFlat (.arr (values.map .ofString)) := by
  have htexts := IsFlat.texts (values.map Text.ofString)
  rwa [Web.texts, List.map_map] at htexts

theorem IsFlat.eq_of_structuralEqual {right : Value} (hflat : IsFlat right)
    (h : structuralEqual value right = true) : value = right := by
  cases hflat with
  | str t => exact structuralEqual_str.mp h
  | texts ts => exact structuralEqual_texts.mp h

theorem isFlat_get {fields : List (String × Value)} (hflat : ∀ field ∈ fields, IsFlat field.2)
    {name : String} (hname : name ∈ fields.map Prod.fst) :
    IsFlat ((Value.record fields).get name) := by
  induction fields with
  | nil => cases hname
  | cons field fields ih =>
      rw [get_record_cons]
      by_cases heq : name = field.1
      · rw [if_pos heq]
        exact hflat field List.mem_cons_self
      · rw [if_neg heq]
        apply ih fun other hother => hflat other (List.mem_cons_of_mem _ hother)
        simpa [heq] using hname

/-- An object that equals a record of flat values has the values of the record. -/
theorem get_eq_of_isFlat {fields : List (String × Value)}
    (hflat : ∀ field ∈ fields, IsFlat field.2)
    (h : structuralEqual value (.record fields) = true) (name : String)
    (hname : name ∈ fields.map Prod.fst) : value.get name = (Value.record fields).get name :=
  (isFlat_get hflat hname).eq_of_structuralEqual (structuralEqual_get h hname)

/-! ## Checks -/

theorem check_eq_ok {condition : Prop} [Decidable condition] {done : Unit} :
    check condition code = .ok done ↔ condition := require_eq_ok

theorem invalid_ne_ok {α : Type} {result : α} : invalid code ≠ .ok result := by
  intro h
  cases h

theorem object_eq_ok (h : object value code = .ok result) : value = result := by
  cases value with
  | obj members =>
      cases h
      rfl
  | _ => exact absurd h invalid_ne_ok

theorem text_eq_ok {t : Text} :
    text value code = .ok t ↔ value = .str t ∧ t.all isTrimmed = false := by
  cases value with
  | str content =>
      by_cases h : content.all isTrimmed = true
      · simp only [text, if_pos h, invalid_ne_ok, Value.str.injEq, false_iff]
        rintro ⟨rfl, hnot⟩
        rw [h] at hnot
        cases hnot
      · rw [text, if_neg h, Except.ok.injEq, Value.str.injEq]
        constructor
        · rintro rfl
          exact ⟨rfl, Bool.eq_false_of_not_eq_true h⟩
        · exact And.left
  | _ => simp [text, invalid_ne_ok]

theorem mapM_cons_eq_ok {α β : Type} {f : α → Except String β} {a : α} {as : List α}
    {bs : List β} :
    (a :: as).mapM f = .ok bs ↔
      ∃ first rest, f a = .ok first ∧ as.mapM f = .ok rest ∧ bs = first :: rest := by
  simp only [List.mapM_cons, bind_eq_ok]
  constructor
  · rintro ⟨first, hfirst, rest, hrest, h⟩
    cases h
    exact ⟨first, rest, hfirst, hrest, rfl⟩
  · rintro ⟨first, rest, hfirst, hrest, rfl⟩
    exact ⟨first, hfirst, rest, hrest, rfl⟩

/-- A check that returns what it was given, over a list. -/
theorem mapM_eq_self {α : Type} {f : α → Except String α} (h : ∀ a b, f a = .ok b → b = a)
    {as bs : List α} (hmap : as.mapM f = .ok bs) : bs = as := by
  induction as generalizing bs with
  | nil =>
      cases hmap
      rfl
  | cons a as ih =>
      obtain ⟨first, rest, hfirst, hrest, rfl⟩ := mapM_cons_eq_ok.mp hmap
      rw [h a first hfirst, ih hrest]

theorem mapM_text_eq_ok {items : List Value} {ts : List Text}
    (h : items.mapM (text · code) = .ok ts) : items = ts.map .str := by
  induction items generalizing ts with
  | nil =>
      cases h
      rfl
  | cons item items ih =>
      obtain ⟨first, rest, hfirst, hrest, rfl⟩ := mapM_cons_eq_ok.mp h
      rw [List.map_cons, (text_eq_ok.mp hfirst).1, ih hrest]

theorem strings_eq_ok {ts : List Text} (h : strings value code = .ok ts) :
    value = texts ts ∧ ts ≠ [] := by
  cases value with
  | arr items =>
      cases items with
      | nil => exact absurd h invalid_ne_ok
      | cons item items =>
          have hitems : item :: items = ts.map .str := mapM_text_eq_ok h
          refine ⟨by rw [texts, hitems], ?_⟩
          rintro rfl
          cases hitems
  | _ => exact absurd h invalid_ne_ok

theorem uuid_eq_ok {t : Text} (h : uuid value code = .ok t) : value = .str t := by
  simp only [uuid, bind_eq_ok] at h
  obtain ⟨content, hcontent, -, -, hresult⟩ := h
  cases hresult
  exact (text_eq_ok.mp hcontent).1

/-! ## The Brand Lock and the request -/

/-- A Brand Lock that is accepted is the approved one. -/
theorem brandLock_eq_ok (h : brandLock value = .ok result) : result = approvedBrandLock := by
  simp only [brandLock, bind_eq_ok, check_eq_ok] at h
  obtain ⟨lock, -, -, hequal, localizable, hlocalizable, -, -, logo, hlogo, product, hproduct,
    facts, hfacts, uis, huis, uis', huis', benefits, hbenefits, action, haction, layout, hlayout,
    hresult⟩ := h
  obtain rfl : uis' = uis := by
    apply mapM_eq_self _ huis'
    intro id id' hid
    exact (Value.str.inj (uuid_eq_ok hid)).symm
  have hfield : ∀ name ∈ ["logo_asset_id", "product_name", "verified_product_facts",
      "product_ui_asset_ids", "benefit_order", "cta_action_meaning", "layout_template_asset_id",
      "localizable_fields"], lock.get name = approvedBrandLock.get name := by
    apply get_eq_of_isFlat _ hequal
    simp only [List.forall_mem_cons]
    exact ⟨.ofString _, .ofString _, .ofStrings [_], .ofStrings [_], .ofStrings [_, _],
      .ofString _, .ofString _, .ofStrings [_, _, _, _], List.forall_mem_nil _⟩
  cases hresult
  rw [← uuid_eq_ok hlogo, ← (text_eq_ok.mp hproduct).1, ← (strings_eq_ok hfacts).1,
    ← (strings_eq_ok huis).1, ← (strings_eq_ok hbenefits).1, ← (text_eq_ok.mp haction).1,
    ← uuid_eq_ok hlayout, ← (strings_eq_ok hlocalizable).1]
  simp only [List.forall_mem_cons] at hfield
  obtain ⟨h1, h2, h3, h4, h5, h6, h7, h8, -⟩ := hfield
  rw [h1, h2, h3, h4, h5, h6, h7, h8]
  simp [approvedBrandLock]

/-- The request that the validator returns, up to the category of the product. -/
def approvedRequest (fixtureId : FixtureId) (category : String) : Value :=
  .record
    [("direction", .ofString (approvedSourceByFixture fixtureId).direction),
      ("execution_mode", .ofString "fixture"), ("product_category", .ofString category),
      ("creative_format", .ofString "static_ad"),
      ("source_asset", (approvedSourceByFixture fixtureId).sourceAsset),
      ("brand_lock", approvedBrandLock)]

/-- An asset of the request that equals the approved one is the approved one. -/
theorem sourceAsset_eq {fixtureId : FixtureId} {assetId kind mediaType digest provenance rights :
    Value}
    (h : structuralEqual (.record
        [("asset_id", assetId), ("kind", kind), ("media_type", mediaType), ("sha256", digest),
          ("provenance_ref", provenance), ("rights_ref", rights)])
      (approvedSourceByFixture fixtureId).sourceAsset = true) :
    Value.record
        [("asset_id", assetId), ("kind", kind), ("media_type", mediaType), ("sha256", digest),
          ("provenance_ref", provenance), ("rights_ref", rights)] =
      (approvedSourceByFixture fixtureId).sourceAsset := by
  cases fixtureId with
  | chinaToUk =>
      have hfield := get_eq_of_isFlat (by simp [IsFlat.ofString]) h
      simp at hfield
      simp [approvedSourceByFixture, hfield]
  | ukToChina =>
      have hfield := get_eq_of_isFlat (by simp [IsFlat.ofString]) h
      simp at hfield
      simp [approvedSourceByFixture, hfield]

/-- A request that is accepted is an approved one, once its direction and its asset have
been compared with the fixture. -/
theorem runCreate_eq_ok {fixtureId : FixtureId} (h : runCreate value = .ok result)
    (hdirection : same (result.get "direction")
      (.ofString (approvedSourceByFixture fixtureId).direction) = true)
    (hasset : structuralEqual (result.get "source_asset")
      (approvedSourceByFixture fixtureId).sourceAsset = true) :
    result = approvedRequest fixtureId "ai_software" ∨
      result = approvedRequest fixtureId "ai_application" := by
  simp only [runCreate, bind_eq_ok, check_eq_ok] at h
  obtain ⟨request, -, -, -, -, -, -, hcategory, -, -, asset, -, -, -, digest, hdigest, -, -,
    mediaType, hmediaType, -, -, assetId, -, provenance, -, rights, -, lock, hlock, hresult⟩ := h
  cases hresult
  simp only [get_record_cons, reduceIte, String.reduceEq] at hdirection hasset
  rw [same_ofString] at hdirection
  rw [sourceAsset_eq hasset, hdirection, brandLock_eq_ok hlock]
  simp only [same_ofString] at hcategory
  rcases hcategory with hcategory | hcategory
  · rw [hcategory]
    exact Or.inl rfl
  · rw [hcategory]
    exact Or.inr rfl

/-! ## Hypotheses -/

/-- The hypothesis that the validator returns. -/
def hypothesisOf (targetMarket id evidence uncertainty : String) (claim rationale : Text)
    (requirements : List Text) : Value :=
  .record
    [("hypothesis_id", .ofString id), ("target_market", .ofString targetMarket),
      ("claim", .str claim), ("evidence_refs", texts [Text.ofString evidence]),
      ("uncertainty", .ofString uncertainty), ("rationale", .str rationale),
      ("validation_requirements", texts requirements), ("review_status", .ofString "pending")]

theorem hypothesis_eq_ok {targetMarket id evidence : String}
    (h : hypothesis targetMarket id evidence value = .ok result) :
    ∃ uncertainty ∈ ["low", "medium", "high"], ∃ claim rationale requirements,
      value.get "claim" = .str claim ∧ value.get "rationale" = .str rationale ∧
        value.get "validation_requirements" = texts requirements ∧ requirements ≠ [] ∧
        result =
          hypothesisOf targetMarket id evidence uncertainty claim rationale requirements := by
  simp only [hypothesis, bind_eq_ok, check_eq_ok] at h
  obtain ⟨item, hitem, -, -, -, hmapping, references, -, observed, -, -, hevidence, requirements,
    hrequirements, -, huncertainty, id', hid, claim, hclaim, rationale, hrationale, hresult⟩ := h
  obtain rfl := object_eq_ok hitem
  obtain ⟨hvalue, hne⟩ := strings_eq_ok hrequirements
  have hmember : ∃ uncertainty ∈ ["low", "medium", "high"],
      value.get "uncertainty" = .ofString uncertainty := by
    simpa [same_ofString] using huncertainty
  obtain ⟨uncertainty, hmem, hget⟩ := hmember
  refine ⟨uncertainty, hmem, claim, rationale, requirements, (text_eq_ok.mp hclaim).1,
    (text_eq_ok.mp hrationale).1, hvalue, hne, ?_⟩
  cases hresult
  rw [← uuid_eq_ok hid, same_ofString.mp hmapping.1, same_ofString.mp hmapping.2, hget, hevidence]
  rfl

theorem hypotheses_eq_ok {targetMarket id evidence : String} {results : List Value}
    (h : hypotheses value targetMarket id evidence = .ok results) :
    ∃ item result, value = .arr [item] ∧ results = [result] ∧
      hypothesis targetMarket id evidence item = .ok result := by
  unfold hypotheses at h
  split at h
  · obtain ⟨result, hresult, hresults⟩ := bind_eq_ok.mp h
    cases hresults
    exact ⟨_, result, rfl, rfl, hresult⟩
  · exact absurd h invalid_ne_ok

/-! ## Layers -/

structure Rectangle where
  left : Int
  top : Int
  right : Int
  bottom : Int

def Rectangle.bounds (r : Rectangle) : Value :=
  .arr [.ofInt r.left, .ofInt r.top, .ofInt r.right, .ofInt r.bottom]

/-- The layer that the validator returns. -/
def layerOf (lock : Value) (kind : String) (digest : Text) (r : Rectangle) (width height : Int) :
    Value :=
  .record
    [("kind", .ofString kind), ("source_asset_id", expectedSource lock (.ofString kind)),
      ("rgba_sha256", .str digest), ("bounds", r.bounds), ("width", .ofInt width),
      ("height", .ofInt height)]

theorem integer?_eq_some {n : Int} (h : integers?.integer? value = some n) :
    value = .ofInt n := by
  cases value with
  | number value =>
      cases value with
      | finite value =>
          simp only [integers?.integer?, Number.integer?] at h
          split_ifs at h with hden
          cases h
          rw [Value.ofInt, ← Rat.coe_int_num_of_den_eq_one hden]
          rfl
      | infinite negative => cases h
  | _ => cases h

theorem integers?_eq_some {left top right bottom : Int}
    (h : integers? value = some [left, top, right, bottom]) :
    value = (Rectangle.mk left top right bottom).bounds := by
  cases value with
  | arr items =>
      have hitems : ∀ {items : List Value} {ns : List Int},
          items.mapM integers?.integer? = some ns → items = ns.map .ofInt := by
        intro items
        induction items with
        | nil =>
            intro ns h
            cases h
            rfl
        | cons item items ih =>
            intro ns h
            simp only [List.mapM_cons, Option.bind_eq_bind, Option.bind_eq_some_iff] at h
            obtain ⟨n, hn, rest, hrest, hns⟩ := h
            cases hns
            rw [List.map_cons, integer?_eq_some hn, ih hrest]
      rw [hitems h]
      rfl
  | _ => cases h

theorem compositionLayer_eq_ok {lock : Value} {kind : String}
    (h : compositionLayer lock value kind = .ok result) :
    ∃ digest r width height, isSha256 (characters digest) = true ∧ value.get "bounds" = r.bounds ∧
      (0 ≤ r.left ∧ 0 ≤ r.top ∧ r.right ≤ 1600 ∧ r.bottom ≤ 900) ∧
      Number.round (r.right - r.left) = some width ∧
      Number.round (r.bottom - r.top) = some height ∧
      result = layerOf lock kind digest r width height := by
  simp only [compositionLayer, bind_eq_ok, check_eq_ok] at h
  obtain ⟨layer, hlayer, -, -, -, hkind, digest, hdigest, -, hsha, h⟩ := h
  obtain rfl := object_eq_ok hlayer
  rw [same_ofString] at hkind
  split at h
  · rename_i left top right bottom width height hbounds hwidth hheight
    simp only [bind_eq_ok, check_eq_ok] at h
    obtain ⟨-, hcanvas, -, -, hresult⟩ := h
    cases hresult
    push Not at hcanvas
    obtain ⟨hleft, htop, hright, hbottom, hw, hh⟩ := hcanvas
    refine ⟨digest, ⟨left, top, right, bottom⟩, width, height, hsha, integers?_eq_some hbounds,
      ⟨hleft, htop, hright, hbottom⟩, hw, hh, ?_⟩
    rw [hkind, (text_eq_ok.mp hdigest).1, integers?_eq_some hbounds, integer?_eq_some hwidth,
      integer?_eq_some hheight]
    rfl
  · exact absurd h invalid_ne_ok

theorem compositionEvidence_eq_ok {fixtureId : FixtureId} {lock : Value}
    {composition : FixtureComposition}
    (h : compositionEvidence value fixtureId lock = .ok composition) :
    ∃ rawLayers, value.get "layers" = .arr rawLayers ∧ rawLayers.length = 7 ∧
      compositionLayers lock rawLayers expectedKinds = .ok composition.layers := by
  simp only [compositionEvidence, bind_eq_ok] at h
  obtain ⟨raw, hraw, -, -, -, -, path, -, -, -, rendered, -, -, -, provenance, -, -, -, layers,
    hlayers, font, -, -, -, -, -, limitation, -, -, -, hresult⟩ := h
  obtain rfl := object_eq_ok hraw
  cases hresult
  cases hget : value.get "layers" with
  | arr rawLayers =>
      simp only [hget, sevenLayers, bind_eq_ok, check_eq_ok] at hlayers
      obtain ⟨-, hlength, hlayers⟩ := hlayers
      exact ⟨rawLayers, rfl, hlength, hlayers⟩
  | _ =>
      rw [hget] at hlayers
      exact absurd hlayers invalid_ne_ok

/-! ## The draft -/

theorem validateDraft_eq_ok {expected : Expectation} {request localized : Value}
    {observedRules : List Text} {observedHypotheses : List Value} {draft : FixtureDraft}
    (h : validateDraft expected request localized observedRules observedHypotheses value =
      .ok draft) :
    ∃ narrative useScenario headline body ctaLabel,
      value.path ["brief", "narrative"] = .str narrative ∧
        value.path ["brief", "use_scenario"] = .str useScenario ∧
        value.path ["copy", "headline"] = .str headline ∧ value.path ["copy", "body"] = .str body ∧
        value.path ["copy", "cta_label"] = .str ctaLabel ∧
        draft.brief = .record
          [("direction", request.get "direction"),
            ("target_locale", .ofString expected.targetLocale),
            ("brand_lock", approvedBrandLock), ("hypotheses", .arr observedHypotheses),
            ("narrative", .str narrative), ("use_scenario", .str useScenario),
            ("trust_information", .ofString disclosure)] ∧
        draft.adCopy = .record
          [("locale", .ofString expected.targetLocale), ("headline", .str headline),
            ("body", .str body), ("cta_label", .str ctaLabel),
            ("cta_action_meaning", (request.get "brand_lock").get "cta_action_meaning")] := by
  simp only [validateDraft, bind_eq_ok, check_eq_ok] at h
  obtain ⟨raw, hraw, brief, hbrief, copy, hcopy, rawLock, -, -, -, lock, hlock, rules, -, -, -,
    narrative, hnarrative, scenario, hscenario, trust, -, -, rfl, headline, hheadline, body, hbody,
    label, hlabel, -, -, hresult⟩ := h
  obtain rfl := object_eq_ok hraw
  obtain rfl := object_eq_ok hbrief
  obtain rfl := object_eq_ok hcopy
  obtain rfl := brandLock_eq_ok hlock
  cases hresult
  exact ⟨narrative, scenario, headline, body, label, (text_eq_ok.mp hnarrative).1,
    (text_eq_ok.mp hscenario).1, (text_eq_ok.mp hheadline).1, (text_eq_ok.mp hbody).1,
    (text_eq_ok.mp hlabel).1, rfl, rfl⟩

/-- A fixture is accepted part by part. -/
theorem validateFixture_eq_ok {raw : Value} {fixtureId : FixtureId} {bundle : FixtureBundle}
    (h : validateFixture raw fixtureId = .ok bundle) :
    (bundle.request = approvedRequest fixtureId "ai_software" ∨
        bundle.request = approvedRequest fixtureId "ai_application") ∧
      compositionEvidence (raw.get "composition") fixtureId approvedBrandLock =
        .ok bundle.composition ∧
      ∃ localized observedRules observedHypotheses,
        hypotheses (raw.path ["preview", "hypotheses"]) (expectation fixtureId).targetMarket
            (expectation fixtureId).hypothesisId (expectation fixtureId).hypothesisEvidence =
          .ok observedHypotheses ∧
        validateDraft (expectation fixtureId) bundle.request localized observedRules
            observedHypotheses (raw.get "draft") = .ok bundle.draft := by
  simp only [validateFixture, bind_eq_ok, check_eq_ok] at h
  obtain ⟨fixture, hfixture, -, -, -, -, -, -, request, hrequest, -, hdirection, -, hasset, preview,
    hpreview, composition, hcomposition, h⟩ := h
  obtain ⟨path, -, -, -, lock, -, -, -, rules, -, -, -, warnings, -, h⟩ := h
  obtain ⟨-, -, limitation, -, -, -, localized, hlocalized, -, -, source, -, observed, hobserved,
    draft, hdraft, h⟩ := h
  obtain ⟨logo, -, ui, -, sourceHeadline, -, sourceBody, -, headline, -, body, -, label, -,
    hresult⟩ := h
  obtain rfl := object_eq_ok hfixture
  obtain rfl := object_eq_ok hpreview
  cases hresult
  have happroved := runCreate_eq_ok hrequest hdirection hasset
  have hlock : request.get "brand_lock" = approvedBrandLock := by
    rcases happroved with rfl | rfl
    · simp [approvedRequest]
    · simp [approvedRequest]
  rw [hlock] at hcomposition
  exact ⟨happroved, hcomposition, localized, rules, observed, hobserved, hdraft⟩

end Web

end CultureShift
