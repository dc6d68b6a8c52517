/-!
# Field names

The fields of a job that the expansion reads or writes. A job may hold any other key, which then
only passes through.
-/

namespace JobExpansion.Field

abbrev testName := "test-name"
abbrev tryName := "try-name"
abbrev description := "description"
abbrev symbol := "treeherder-symbol"
abbrev testPlatform := "test-platform"
abbrev apps := "apps"
abbrev app := "app"
abbrev pageload := "pageload"
abbrev condprof := "condprof"
abbrev activity := "activity"
abbrev binaryPath := "binary-path"
abbrev raptorTest := "raptor-test"
abbrev raptorSubtests := "raptor-subtests"
abbrev cold := "cold"
abbrev runVisualMetrics := "run-visual-metrics"
abbrev maxRunTime := "max-run-time"
abbrev requireSignedExtensions := "require-signed-extensions"
abbrev mozharness := "mozharness"
abbrev extraOptions := "extra-options"
abbrev attributes := "attributes"
abbrev variants := "variants"
abbrev limitPlatforms := "limit-platforms"
abbrev runOnProjects := "run-on-projects"
abbrev target := "target"

end JobExpansion.Field
