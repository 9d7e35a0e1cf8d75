import SplitTest.Experiment
import SplitTest.Stats

namespace SplitTest

def Timestamp.toJson (t : Timestamp) : Json := .string t.text

def Experiment.toJson (e : Experiment) : Json :=
  .ofMembers [
    ("id", .string e.id.text),
    ("organization_id", .string e.organization.text),
    ("name", .string e.name),
    ("description", .ofOption .string e.description),
    ("status", .string e.status.name),
    ("variants", .object e.variants.toList),
    ("targeting_rules", e.targetingRules.getD .null),
    ("traffic_percentage", .ofInt e.traffic.toInt),
    ("started_at", .ofOption Timestamp.toJson e.startedAt),
    ("ended_at", .ofOption Timestamp.toJson e.endedAt),
    ("created_at", e.createdAt.toJson),
    ("updated_at", e.updatedAt.toJson)]

def Assignment.toJson (a : Assignment) : Json :=
  .ofMembers [
    ("experiment_id", .string a.experiment.text),
    ("subject_id", .string a.subject.text),
    ("variant", .string a.variant),
    ("assigned_at", a.assignedAt.toJson)]

def VariantStats.toJson (s : VariantStats) : Json :=
  .ofMembers [
    ("variant_name", .string s.name),
    ("subject_count", .ofNat s.subjects),
    ("observation_count", .ofNat s.observations),
    ("metric_mean", .float s.mean),
    ("metric_std", .float s.stddev),
    ("metric_min", .float s.min),
    ("metric_max", .float s.max)]

def Results.toJson (r : Results) : Json :=
  .ofMembers [
    ("experiment_id", .string r.experiment.text),
    ("experiment_name", .string r.name),
    ("status", .string r.status.name),
    ("metric_name", .string r.metric),
    ("variant_stats", .object (r.variants.toList.map fun (name, s) => (name, s.toJson))),
    ("is_significant", .bool r.significant),
    ("p_value", .ofOption .float r.pValue),
    ("confidence_level", .float r.confidence),
    ("t_statistic", .ofOption .float (r.t.filter Float.isFinite))]

end SplitTest
