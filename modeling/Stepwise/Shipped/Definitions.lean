import Stepwise.Disk.Files
import Stepwise.Text.Utf8

/-!
# Shipped definitions

The workflows that come with the library: one that resolves failures of a build, one that watches
pull requests, and one that watches a sprint. Each is a definition file.
-/

namespace Stepwise

namespace Shipped

/-- Lines, each with its end. -/
def lines (content : List String) : String := String.join (content.map (· ++ "\n"))

def buildFailureResolution : String := lines [
  "# Automatically analyze and resolve build failures",
  "workflow:",
  "  id: build-failure-resolution",
  "  name: Build Failure Resolution",
  "  description: Automatically analyze and resolve build failures",
  "",
  "  trigger:",
  "    type: event",
  "    event: build.failed",
  "",
  "  steps:",
  "    - id: monitor",
  "      agent: monitor",
  "      action: monitorBuildFailure",
  "      input:",
  "        build:",
  "          buildNumber: \"$\x7bbuild.buildNumber\x7d\"",
  "          definition: \"$\x7bbuild.definition\x7d\"",
  "      output: analysis",
  "",
  "    - id: check_auto_fix",
  "      agent: execute",
  "      action: decide",
  "      input:",
  "        analysis: \"$\x7banalysis\x7d\"",
  "      output: decision",
  "",
  "    - id: execute_fix",
  "      agent: execute",
  "      action: executeAction",
  "      input:",
  "        decision: \"$\x7bdecision\x7d\"",
  "      condition: '$\x7bdecision.decision\x7d == \"auto_execute\"'",
  "      output: fix_result",
  "      continueOnError: true",
  "",
  "    - id: notify",
  "      agent: execute",
  "      action: sendNotification",
  "      input:",
  "        recipient: team",
  "        message: \"Build $\x7bbuild.buildNumber\x7d failed: $\x7banalysis.summary\x7d\"",
  "        priority: high",
  "      output: notification_result"]

def pullRequestMonitoring : String := lines [
  "# Monitor pull requests and send reminders for idle ones",
  "workflow:",
  "  id: pr-monitoring",
  "  name: Pull Request Monitoring",
  "  description: Monitor PRs and send reminders for idle ones",
  "",
  "  trigger:",
  "    type: scheduled",
  "    cron: \"0 */6 * * *\"",
  "",
  "  steps:",
  "    - id: check_pr",
  "      agent: monitor",
  "      action: monitorPullRequest",
  "      input:",
  "        pr: \"$\x7bpr\x7d\"",
  "      output: pr_status",
  "",
  "    - id: send_reminder",
  "      agent: execute",
  "      action: sendNotification",
  "      input:",
  "        recipient: \"$\x7bpr.reviewers\x7d\"",
  "        message: \"PR review reminder: $\x7bpr.title\x7d\"",
  "        priority: normal",
  "      condition: '$\x7bpr_status.action\x7d == \"send_notification\"'",
  "      output: reminder_sent",
  "",
  "    - id: escalate_if_needed",
  "      agent: execute",
  "      action: escalate",
  "      input:",
  "        issue:",
  "          type: pr_idle",
  "          pr: \"$\x7bpr\x7d\"",
  "        reason: PR idle for extended period",
  "      condition: '$\x7bpr_status.action\x7d == \"escalate\"'",
  "      output: escalation_result"]

def sprintMonitoring : String := lines [
  "# Proactively monitor sprint health",
  "workflow:",
  "  id: sprint-monitoring",
  "  name: Sprint Health Monitoring",
  "  description: Monitor sprint progress and identify risks",
  "",
  "  trigger:",
  "    type: scheduled",
  "    cron: \"0 9 * * *\"",
  "",
  "  steps:",
  "    - id: analyze_sprint",
  "      agent: analyze",
  "      action: analyzeSprintHealth",
  "      input:",
  "        workItems: \"$\x7bworkItems\x7d\"",
  "      output: sprint_analysis",
  "",
  "    - id: check_risks",
  "      agent: execute",
  "      action: decide",
  "      input:",
  "        analysis: \"$\x7bsprint_analysis\x7d\"",
  "      output: risk_decision",
  "",
  "    - id: escalate_blockers",
  "      agent: execute",
  "      action: escalate",
  "      input:",
  "        issue: \"$\x7bsprint_analysis.risks\x7d\"",
  "        reason: Sprint blockers detected",
  "      condition: '$\x7brisk_decision.decision\x7d == \"escalate\"'",
  "      output: escalation_result",
  "      continueOnError: true",
  "",
  "    - id: send_summary",
  "      agent: execute",
  "      action: sendNotification",
  "      input:",
  "        recipient: team",
  "        message: \"Sprint health: $\x7bsprint_analysis.summary\x7d\"",
  "        priority: normal",
  "      output: notification_result"]

/-- The names and contents of the shipped files. -/
def definitions : List (String × String) := [
  ("build-failure-resolution.yaml", buildFailureResolution),
  ("pr-monitoring.yaml", pullRequestMonitoring),
  ("sprint-monitoring.yaml", sprintMonitoring)]

/-- A disk with the shipped files in a directory. -/
def install (directory : Path) (files : Files) : Files :=
  definitions.foldl (fun files (name, content) =>
    files.provide (directory.join name) (Utf8.encode content.toList)) files

end Shipped

end Stepwise
