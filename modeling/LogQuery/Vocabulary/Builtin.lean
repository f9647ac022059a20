/-
The function names that are known without any function list.
-/
import LogQuery.Vocabulary

namespace LogQuery.Vocabulary

/-- The functions of the query language's reference. -/
def builtinNames : List String := [
  "array:contains", "array:dedup", "array:drop", "array:eval",
  "array:exists", "array:filter", "array:intersection", "array:length",
  "array:reduceAll", "array:reduceColumn", "array:reduceRow",
  "array:regex", "array:rename", "array:sort", "array:union", "asn", "avg",
  "base64Decode", "base64Encode", "beta:param", "bitfield:extractFlags",
  "bitfield:extractFlagsAsArray", "bitfield:extractFlagsAsString",
  "bucket", "callFunction", "case", "cidr", "coalesce", "collect",
  "communityId", "concat", "concatArray", "copyEvent", "correlate",
  "count", "counterAsRate", "createEvents", "crypto:md5", "default",
  "defineTable", "drop", "dropEvent", "duration", "end", "eval",
  "eventFieldCount", "eventInternals", "eventSize", "fieldset",
  "fieldstats", "findTimestamp", "format", "formatDuration", "formatTime",
  "geography:distance", "geohash", "getField", "groupBy", "hash",
  "hashMatch", "hashRewrite", "head", "if", "in", "ioc:lookup",
  "ipLocation", "join", "json:prettyPrint", "kvParse", "length", "linReg",
  "lower", "lowercase", "match", "math:abs", "math:arccos", "math:arcsin",
  "math:arctan", "math:arctan2", "math:ceil", "math:cos", "math:cosh",
  "math:deg2rad", "math:exp", "math:expm1", "math:floor", "math:log",
  "math:log10", "math:log1p", "math:log2", "math:mod", "math:pow",
  "math:rad2deg", "math:sin", "math:sinh", "math:spherical2cartesian",
  "math:sqrt", "math:tan", "math:tanh", "max", "min", "neighbor", "now",
  "parseCEF", "parseCsv", "parseFixedWidth", "parseHexString", "parseInt",
  "parseJson", "parseLEEF", "parseTimestamp", "parseUri", "parseUrl",
  "parseXml", "percentage", "percentile", "range", "rdns", "readFile",
  "regex", "rename", "replace", "round", "sample", "sankey", "select",
  "selectFromMax", "selectFromMin", "selectLast", "series", "session",
  "setField", "setTimeInterval", "shannonEntropy", "sort", "split",
  "splitString", "start", "stats", "stdDev", "stripAnsiCodes", "subnet",
  "sum", "table", "tail", "test", "text:contains", "text:endsWith",
  "text:startsWith", "time:dayOfMonth", "time:dayOfWeek",
  "time:dayOfWeekName", "time:dayOfYear", "time:hour", "time:millisecond",
  "time:minute", "time:month", "time:monthName", "time:second",
  "time:weekOfYear", "time:year", "timeChart", "tokenHash", "top",
  "transpose", "unit:convert", "upper", "urlDecode", "urlEncode",
  "wildcard", "window", "worldMap", "writeJson", "xml:prettyPrint"]

/-- The functions of the reference, as a set. -/
def builtinFunctions : NameSet := .ofList builtinNames

/-- The vocabulary that is used when no other is asked for. -/
def builtin : Vocabulary := ofFunctions builtinFunctions

end LogQuery.Vocabulary
