import MarketplaceService.Lib.Text

/-!
The region of a postal address, under the rules of
`contracts/postal-region-rules.json`. A subdivision that is known by its code or
its name is stored as its code; any other text is stored as it is, trimmed.
-/

namespace MarketplaceService.Commands

structure PostalCountryRule where
  regionRequired : Bool
  subdivisions : List (String × String)

def usSubdivisions : List (String × String) :=
  [("AL", "Alabama"), ("AK", "Alaska"), ("AZ", "Arizona"), ("AR", "Arkansas"),
    ("CA", "California"), ("CO", "Colorado"), ("CT", "Connecticut"), ("DE", "Delaware"),
    ("DC", "District of Columbia"), ("FL", "Florida"), ("GA", "Georgia"), ("HI", "Hawaii"),
    ("ID", "Idaho"), ("IL", "Illinois"), ("IN", "Indiana"), ("IA", "Iowa"), ("KS", "Kansas"),
    ("KY", "Kentucky"), ("LA", "Louisiana"), ("ME", "Maine"), ("MD", "Maryland"),
    ("MA", "Massachusetts"), ("MI", "Michigan"), ("MN", "Minnesota"), ("MS", "Mississippi"),
    ("MO", "Missouri"), ("MT", "Montana"), ("NE", "Nebraska"), ("NV", "Nevada"),
    ("NH", "New Hampshire"), ("NJ", "New Jersey"), ("NM", "New Mexico"), ("NY", "New York"),
    ("NC", "North Carolina"), ("ND", "North Dakota"), ("OH", "Ohio"), ("OK", "Oklahoma"),
    ("OR", "Oregon"), ("PA", "Pennsylvania"), ("RI", "Rhode Island"), ("SC", "South Carolina"),
    ("SD", "South Dakota"), ("TN", "Tennessee"), ("TX", "Texas"), ("UT", "Utah"),
    ("VT", "Vermont"), ("VA", "Virginia"), ("WA", "Washington"), ("WV", "West Virginia"),
    ("WI", "Wisconsin"), ("WY", "Wyoming"), ("AS", "American Samoa"), ("GU", "Guam"),
    ("MP", "Northern Mariana Islands"), ("PR", "Puerto Rico"), ("VI", "U.S. Virgin Islands"),
    ("AA", "Armed Forces Americas"), ("AE", "Armed Forces Europe"),
    ("AP", "Armed Forces Pacific")]

def caSubdivisions : List (String × String) :=
  [("AB", "Alberta"), ("BC", "British Columbia"), ("MB", "Manitoba"), ("NB", "New Brunswick"),
    ("NL", "Newfoundland and Labrador"), ("NS", "Nova Scotia"), ("NT", "Northwest Territories"),
    ("NU", "Nunavut"), ("ON", "Ontario"), ("PE", "Prince Edward Island"), ("QC", "Quebec"),
    ("SK", "Saskatchewan"), ("YT", "Yukon")]

def auSubdivisions : List (String × String) :=
  [("ACT", "Australian Capital Territory"), ("NSW", "New South Wales"),
    ("NT", "Northern Territory"), ("QLD", "Queensland"), ("SA", "South Australia"),
    ("TAS", "Tasmania"), ("VIC", "Victoria"), ("WA", "Western Australia")]

def regionCountries : List String :=
  ["AE", "AR", "BD", "BR", "CL", "CN", "CO", "EG", "ID", "IN", "KR", "MX", "MY", "NG", "PE",
    "PH", "PK", "SA", "TH", "TR", "VN", "ZA"]

/-- `countries` of the rules file. -/
def countries : List (String × PostalCountryRule) :=
  ("US", ⟨true, usSubdivisions⟩) :: ("CA", ⟨true, caSubdivisions⟩) ::
    ("AU", ⟨true, auSubdivisions⟩) :: ("JP", ⟨false, []⟩) ::
    regionCountries.map fun country => (country, ⟨true, []⟩)

def regionMaxChars : ℕ := 100

def postalCountryRule (countryCode : String) : PostalCountryRule :=
  (countries.lookup (Text.toAsciiUppercase (Text.trim countryCode))).getD ⟨false, []⟩

def canonicalizeRegion (countryCode region : String) : Except String String :=
  let trimmed := Text.trim region
  let rule := postalCountryRule countryCode
  if trimmed.length > regionMaxChars then .error "Expected at most 100 characters"
  else if trimmed = "" then
    if rule.regionRequired then .error "Expected between 1 and 100 characters" else .ok ""
  else if rule.subdivisions = [] then .ok trimmed
  else
    let upper := Text.toAsciiUppercase trimmed
    match rule.subdivisions.find? fun item => Text.eqIgnoreAsciiCase item.1 upper with
    | some item => .ok item.1
    | none =>
        let lower := Text.toAsciiLowercase trimmed
        match rule.subdivisions.find? fun item => Text.toAsciiLowercase item.2 == lower with
        | some item => .ok item.1
        | none => .ok trimmed

/-- Each code is plain, and is the first that reads as it in either case. -/
def wellCoded (subdivisions : List (String × String)) : Bool :=
  subdivisions.all fun item =>
    Text.trim item.1 == item.1 && item.1 != "" && decide (item.1.length ≤ regionMaxChars) &&
      (subdivisions.find? fun other =>
        Text.eqIgnoreAsciiCase other.1 (Text.toAsciiUppercase item.1)) == some item

theorem countries_wellCoded :
    (countries.all fun entry => wellCoded entry.2.subdivisions) = true := by decide +kernel

theorem postalCountryRule_wellCoded (countryCode : String) :
    wellCoded (postalCountryRule countryCode).subdivisions = true := by
  unfold postalCountryRule
  cases found : countries.lookup (Text.toAsciiUppercase (Text.trim countryCode)) with
  | none => rfl
  | some rule =>
      have member : (Text.toAsciiUppercase (Text.trim countryCode), rule) ∈ countries := by
        obtain ⟨before, after, split, -⟩ := List.lookup_eq_some_iff.mp found
        rw [split]
        exact List.mem_append_right _ List.mem_cons_self
      exact List.all_eq_true.mp countries_wellCoded _ member

theorem canonicalizeRegion_code {countryCode : String} {item : String × String}
    (listed : item ∈ (postalCountryRule countryCode).subdivisions) :
    canonicalizeRegion countryCode item.1 = .ok item.1 := by
  have coded := List.all_eq_true.mp (postalCountryRule_wellCoded countryCode) item listed
  simp only [Bool.and_eq_true, beq_iff_eq, bne_iff_ne, decide_eq_true_eq] at coded
  obtain ⟨⟨⟨plain, nonempty⟩, short⟩, first⟩ := coded
  have table : (postalCountryRule countryCode).subdivisions ≠ [] := List.ne_nil_of_mem listed
  unfold canonicalizeRegion
  simp only [plain, if_neg (Nat.not_lt.mpr short), if_neg nonempty, if_neg table, first]

theorem canonicalizeRegion_idempotent {countryCode region canonical : String}
    (accepted : canonicalizeRegion countryCode region = .ok canonical) :
    canonicalizeRegion countryCode canonical = .ok canonical := by
  -- A trimmed text takes the branch it took before; a code is covered above.
  have trimmed (same : canonical = Text.trim region) :
      canonicalizeRegion countryCode canonical = .ok canonical := by
    rw [← accepted, same]
    unfold canonicalizeRegion
    simp only [Text.trim_trim]
  unfold canonicalizeRegion at accepted
  simp only at accepted
  split at accepted
  · cases accepted
  · split at accepted
    case isTrue empty =>
      split at accepted
      · cases accepted
      · cases accepted
        exact trimmed empty.symm
    case isFalse =>
      split at accepted
      · cases accepted
        exact trimmed rfl
      · split at accepted
        case h_1 item found =>
          cases accepted
          exact canonicalizeRegion_code (List.mem_of_find?_eq_some found)
        case h_2 =>
          split at accepted
          case h_1 item found =>
            cases accepted
            exact canonicalizeRegion_code (List.mem_of_find?_eq_some found)
          case h_2 =>
            cases accepted
            exact trimmed rfl

end MarketplaceService.Commands
