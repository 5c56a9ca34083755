import Catalogue.Settings

/-!
# The command line

The program takes no arguments; everything it does is set by variables of the environment. It shows
the settings that are in force, one on a line.
-/

namespace Catalogue

/-- The variables that settings are taken from. -/
def Settings.variables : List String :=
  ["HOST", "PORT", "RUST_LOG", "LOG_FORMAT", "SERVICE_ADDRESS", "HOSTNAME", "PRODUCT_SERVICE_URL",
   "RECOMMENDATION_SERVICE_URL", "REVIEW_SERVICE_URL", "PRODUCT_TIMEOUT_MS",
   "RECOMMENDATION_TIMEOUT_MS", "REVIEW_TIMEOUT_MS", "UPSTREAM_POOL_SIZE", "UPSTREAM_QUEUE_DEPTH",
   "EVENT_PARTITIONS"]

/-- A service as it is shown. -/
def Endpoint.summary (name : String) (e : Endpoint) : String :=
  name ++ ": " ++ e.baseUrl ++ " within " ++ decimalText e.timeout ++ " ms"

/-- The settings as they are shown. -/
def Settings.summary (s : Settings) : List String :=
  ["listening on " ++ s.bindAddress ++ " as " ++ s.serviceAddress,
   "logging " ++ s.logLevel ++ " as " ++ (match s.logFormat with
     | .json => "json"
     | .text => "text"),
   s.product.summary "product", s.recommendation.summary "recommendation",
   s.review.summary "review",
   "calling with " ++ decimalText s.poolSize ++ " workers and a queue of " ++
     decimalText s.queueDepth,
   "publishing on " ++ decimalText s.eventPartitions ++ " partitions"]

end Catalogue

open Catalogue in
/-- Shows the settings in force. -/
def main : IO Unit := do
  let values ← Settings.variables.mapM fun name => do
    let value ← IO.getEnv name
    pure (name, value)
  let settings := Settings.ofLookup fun name => (values.lookup name).join
  for line in settings.summary do
    IO.println line
