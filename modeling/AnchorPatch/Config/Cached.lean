import AnchorPatch.Config.Validation
import AnchorPatch.Regex.Cache

/-!
Configurations and the cache of patterns.

Patterns are compiled through a cache, both when a configuration is validated and when its rules
are made ready for use. Each takes the cache as it finds it and leaves it changed, also where it
fails.
-/

namespace AnchorPatch

open Regex (Cache)

/-- A step that may compile patterns through a cache. -/
abbrev Caching := StateM Cache

/-- Compiles a pattern through the cache. -/
def Pattern.compileCached (kind : PatternKind) (source : Text) :
    ExceptT PatternError Caching Pattern :=
  match kind with
  | .text => return .text source
  | .regex => ExceptT.mk do
      match ← (modifyGet fun cache => cache.getOrCompile source : Caching _) with
      | .ok r => return .ok (.regex r)
      | .error cause => return .error { pattern := source, cause }

def AnchorSpec.compileCached (a : AnchorSpec) : ExceptT PatternError Caching Anchor := do
  return { pattern := ← Pattern.compileCached a.kind a.pattern, placement := a.placement,
           separator := a.separator }

def RuleSpec.compileCached (r : RuleSpec) : ExceptT RuleError Caching Rule := do
  let anchor (a : AnchorSpec) : ExceptT RuleError Caching Anchor :=
    a.compileCached.adapt (.unusableAnchor r.id)
  let primary ← anchor r.primary
  let fallback ← r.fallback.mapM anchor
  return { id := r.id, description := r.description, anchors := { primary, fallback },
           text := r.text, expand := r.expand, unlessPresent := r.unlessPresent }

def RuleSet.compileCached (specs : List RuleSpec) : ExceptT RuleError Caching RuleSet := do
  return { rules := ← specs.mapM RuleSpec.compileCached }

/-- The faults of an anchor. The pattern is compiled unless it is empty. -/
def AnchorSpec.issuesCached (rule : Text) (slot : Slot) (a : AnchorSpec) :
    Caching (List Issue) := do
  if a.pattern = [] then return [.missing (some rule) (.pattern slot)]
  else
    let compiled ← (Pattern.compileCached a.kind a.pattern).run
    return (match compiled with
        | .ok _ => []
        | .error cause => [.badPattern rule slot cause])
      ++ Issue.when (a.separator.isSome && a.placement = .replace)
        (.conflict rule (.separatorWithoutAfter slot))

namespace RuleSpec

def issuesCached (r : RuleSpec) : Caching (List Issue) := do
  let primary ← r.primary.issuesCached r.id .primary
  let fallback ← r.fallback.mapM (AnchorSpec.issuesCached r.id .fallback)
  return Issue.when (Text.allBlank r.text) (.missing (some r.id) .text)
    ++ Issue.when (r.unlessPresent.any Text.allBlank) (.missing (some r.id) .unlessPresent)
    ++ primary ++ fallback.getD []
    ++ Issue.when (r.expand && !r.hasRegex) (.conflict r.id .expandWithoutRegex)

def allIssuesCached (seen : List Text) : List RuleSpec → Caching (List Issue)
  | [] => return []
  | r :: rs => do
      let first ← r.issuesCached
      let rest ← allIssuesCached (r.id :: seen) rs
      return r.idIssues seen ++ first ++ rest

end RuleSpec

/-- Validates a configuration, its patterns being compiled through the cache. -/
def Config.validateCached (c : Config) : Caching (Except (List Issue) Unit) := do
  let rules ← RuleSpec.allIssuesCached [] c.rules
  let issues := Issue.when (Text.allBlank c.info.target) (.missing none .target)
    ++ Issue.when (Text.allBlank c.info.backupSuffix) (.missing none .backupSuffix)
    ++ Issue.when c.rules.isEmpty .noRules
    ++ rules
  return match issues with
    | [] => .ok ()
    | issues => .error issues

end AnchorPatch
