namespace SplitTest

inductive Invalid where
  | uuid (text : String)
  | status (text : String)
  | notText (key : String)
  | variantsNotObject
  | trafficNotInteger
  | trafficOutOfRange
  | definitionNotObject
  | definitionLacks (key : String)
  | changesNotObject
  | settingsNotObject
  | settingType (key : String)
  | settingCount (key : String)
  | confidenceBounds
  | defaultConfidence
  | fewSubjects
  | pValueFloor
  | listLimit
  | scanLimit
  | nameLength
  | controlVariant
  | settingsMissing (path : String)
  | settingsMalformed (path : String)
  | modulusZero
  | modulusTooLarge
  | noVariants
  | noObservations (variant : String)
  | emptySample
deriving DecidableEq, Repr

def Invalid.message : Invalid → String
  | uuid text => s!"Invalid UUID '{text}'"
  | status text => s!"Unknown experiment status: '{text}'"
  | notText key => s!"'{key}' must be a string."
  | variantsNotObject => "'variants' must be a JSON object of name -> config."
  | trafficNotInteger => "'traffic_percentage' must be an integer."
  | trafficOutOfRange => "'traffic_percentage' is out of range."
  | definitionNotObject => "Experiment definition must be a JSON object."
  | definitionLacks key => s!"Experiment definition is missing '{key}'."
  | changesNotObject => "Experiment update must be a JSON object."
  | settingsNotObject => "Engine config must be a JSON object."
  | settingType key => s!"Config field '{key}' has the wrong type"
  | settingCount key => s!"Config field '{key}' must be a non-negative integer."
  | confidenceBounds => "Confidence bounds must satisfy 0 < min <= max < 1."
  | defaultConfidence => "default_confidence_level must lie inside the confidence bounds."
  | fewSubjects => "min_subjects_per_variant must be at least 2."
  | pValueFloor => "p_value_floor must lie in (0, 1)."
  | listLimit => "default_list_limit must be positive."
  | scanLimit => "unscoped_scan_limit must be positive."
  | nameLength => "max_name_length must be positive."
  | controlVariant => "control_variant must not be empty."
  | settingsMissing path => s!"Cannot open engine config file: {path}"
  | settingsMalformed path => s!"Failed to parse engine config '{path}'"
  | modulusZero => "digest_mod: modulus must be positive."
  | modulusTooLarge => "digest_mod: modulus too large."
  | noVariants => "select_variant: no variants to choose from."
  | noObservations variant => s!"summarize_variant: variant '{variant}' has no observations."
  | emptySample => "welch_test: sample sizes must be positive."

end SplitTest
