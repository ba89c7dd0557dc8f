import FilterQuery.Text.Basic

/-!
The known words of SQL texts.
-/

namespace FilterQuery.Sql

/-- The words with a meaning of their own. Where none of their meanings fits, most of them are names
like any other word. -/
inductive Keyword where
  | ABORT | ACTION | ADD | AFTER | AGAINST | ALL | ALTER | ANALYZE | AND | ANTI | ANY | APPLY
  | ARRAY | AS | ASC | ASOF | AT | AUTO | AUTO_INCREMENT | BASE64 | BEGIN | BETWEEN | BIGDECIMAL
  | BIGINT | BIGNUMERIC | BINARY | BIT | BLOB | BOOL | BOOLEAN | BOTH | BROWSE | BY | BYTEA | BYTES
  | CALL | CASCADE | CASE | CAST | CEIL | CENTURY | CHAIN | CHAR | CHARACTER | CHARACTERS | CHECK
  | CLOB | CLUSTER | COLLATE | COLLATION | COLUMN | COLUMNS | COMMENT | COMMIT | COMMITTED
  | CONFLICT | CONNECT | CONNECTION | CONSTRAINT | CONVERT | COUNT | CREATE | CROSS | CURRENT
  | CURRENT_DATE | CURRENT_TIME | CURRENT_TIMESTAMP | DATABASE | DATABASES | DATE | DATE32
  | DATETIME | DATETIME64 | DAY | DAYOFWEEK | DAYOFYEAR | DEC | DECADE | DECIMAL | DEFAULT | DELAYED
  | DELETE | DESC | DESCRIBE | DISTINCT | DISTRIBUTE | DIV | DO | DOUBLE | DOW | DOY | DROP
  | DUPLICATE | ELEMENTS | ELSE | END | ENGINE | ENUM | ENUM16 | ENUM8 | EPOCH | ERROR | ESCAPE
  | EVENT | EXCEPT | EXISTS | EXPANSION | EXPLAIN | EXPLICIT | EXTENDED | EXTRACT | FAIL | FALSE
  | FETCH | FIELDS | FIRST | FIXEDSTRING | FLOAT | FLOAT32 | FLOAT4 | FLOAT64 | FLOAT8 | FLOOR | FN
  | FOLLOWING | FOR | FOREIGN | FORMAT | FORMATTED | FROM | FULL | FUNCTION | FUNCTIONS | GLOBAL
  | GROUP | GROUPS | HAVING | HIGH_PRIORITY | HOUR | IF | IGNORE | ILIKE | IN | INCLUDE_NULL_VALUES
  | INDEX | INNER | INSERT | INT | INT128 | INT16 | INT2 | INT256 | INT32 | INT4 | INT64 | INT8
  | INTEGER | INTERSECT | INTERVAL | INTO | IS | ISODOW | ISOLATION | ISOWEEK | ISOYEAR | JOIN
  | JSON | JSONB | JULIAN | KEY | KILL | LANGUAGE | LARGE | LAST | LATERAL | LEADING | LEFT | LEVEL
  | LIKE | LIMIT | LOCAL | LOCALTIME | LOCALTIMESTAMP | LOCKED | LONGBLOB | LONGTEXT | LOW_PRIORITY
  | MATCH | MATCH_CONDITION | MATCH_RECOGNIZE | MAX | MEDIUMBLOB | MEDIUMINT | MEDIUMTEXT
  | MICROSECOND | MICROSECONDS | MILLENIUM | MILLENNIUM | MILLISECOND | MILLISECONDS | MINUTE | MODE
  | MONTH | MUTATION | NAME | NANOSECOND | NANOSECONDS | NATURAL | NEXT | NO | NOT | NOTHING
  | NOWAIT | NULL | NULLS | NUMERIC | NVARCHAR | OBJECT | OCTETS | OF | OFFSET | ON | ONLY
  | OPERATOR | OR | ORDER | ORDINALITY | OUTER | OVER | OVERFLOW | OVERLAY | OVERWRITE | PARTITION
  | PATH | PERCENT | PIVOT | PLACING | POSITION | PRECEDING | PRECISION | PREWHERE | PRIMARY
  | PROCEDURE | PURGE | QUALIFY | QUARTER | QUERY | RANGE | RAW | READ | REAL | RECURSIVE
  | REFERENCES | REGCLASS | REGEXP | RELEASE | RENAME | REPEATABLE | REPLACE | RESPECT | RESTRICT
  | RETURNING | RIGHT | RLIKE | ROLE | ROLLBACK | ROOT | ROW | ROWS | SAFE_CAST | SAVEPOINT | SCHEMA
  | SCHEMAS | SECOND | SELECT | SEMI | SEPARATOR | SEQUENCE | SERIALIZABLE | SESSION | SET
  | SETTINGS | SHARE | SHOW | SIMILAR | SKIP | SMALLINT | SOME | SORT | STAGE | START | STATUS
  | STRING | SUBSTRING | TABLE | TABLES | TEMP | TEMPORARY | TEXT | THEN | TIES | TIME | TIMESTAMP
  | TIMESTAMPTZ | TIMETZ | TIMEZONE | TIMEZONE_ABBR | TIMEZONE_HOUR | TIMEZONE_MINUTE
  | TIMEZONE_REGION | TINYBLOB | TINYINT | TINYTEXT | TO | TOP | TRAILING | TRANSACTION | TRIGGER
  | TRIM | TRUE | TRUNCATE | TRY_CAST | TYPE | UINT128 | UINT16 | UINT256 | UINT32 | UINT64 | UINT8
  | UNBOUNDED | UNCOMMITTED | UNION | UNIQUE | UNKNOWN | UNLOGGED | UNNEST | UNPIVOT | UNSIGNED
  | UPDATE | USE | USING | UUID | VALUES | VARBINARY | VARCHAR | VARIABLES | VARYING | VERBOSE
  | VIEW | VIEWS | WEEK | WHEN | WHERE | WINDOW | WITH | WITHIN | WITHOUT | WITHOUT_ARRAY_WRAPPER
  | WORK | WRITE | XML | XOR | YEAR | ZONE
  /-- A known word without a meaning of its own, which still cannot stand for a string. -/
  | other
deriving DecidableEq

namespace Keyword

def spelledFrom : Char → List (Text × Keyword)
  | 'A' =>
    [("ABORT".toList, ABORT), ("ACTION".toList, ACTION), ("ADD".toList, ADD),
    ("AFTER".toList, AFTER), ("AGAINST".toList, AGAINST), ("ALL".toList, ALL),
    ("ALTER".toList, ALTER), ("ANALYZE".toList, ANALYZE), ("AND".toList, AND),
    ("ANTI".toList, ANTI), ("ANY".toList, ANY), ("APPLY".toList, APPLY), ("ARRAY".toList, ARRAY),
    ("AS".toList, AS), ("ASC".toList, ASC), ("ASOF".toList, ASOF), ("AT".toList, AT),
    ("AUTO".toList, AUTO), ("AUTO_INCREMENT".toList, AUTO_INCREMENT)]
  | 'B' =>
    [("BASE64".toList, BASE64), ("BEGIN".toList, BEGIN), ("BETWEEN".toList, BETWEEN),
    ("BIGDECIMAL".toList, BIGDECIMAL), ("BIGINT".toList, BIGINT), ("BIGNUMERIC".toList, BIGNUMERIC),
    ("BINARY".toList, BINARY), ("BIT".toList, BIT), ("BLOB".toList, BLOB), ("BOOL".toList, BOOL),
    ("BOOLEAN".toList, BOOLEAN), ("BOTH".toList, BOTH), ("BROWSE".toList, BROWSE),
    ("BY".toList, BY), ("BYTEA".toList, BYTEA), ("BYTES".toList, BYTES)]
  | 'C' =>
    [("CALL".toList, CALL), ("CASCADE".toList, CASCADE), ("CASE".toList, CASE),
    ("CAST".toList, CAST), ("CEIL".toList, CEIL), ("CENTURY".toList, CENTURY),
    ("CHAIN".toList, CHAIN), ("CHAR".toList, CHAR), ("CHARACTER".toList, CHARACTER),
    ("CHARACTERS".toList, CHARACTERS), ("CHECK".toList, CHECK), ("CLOB".toList, CLOB),
    ("CLUSTER".toList, CLUSTER), ("COLLATE".toList, COLLATE), ("COLLATION".toList, COLLATION),
    ("COLUMN".toList, COLUMN), ("COLUMNS".toList, COLUMNS), ("COMMENT".toList, COMMENT),
    ("COMMIT".toList, COMMIT), ("COMMITTED".toList, COMMITTED), ("CONFLICT".toList, CONFLICT),
    ("CONNECT".toList, CONNECT), ("CONNECTION".toList, CONNECTION),
    ("CONSTRAINT".toList, CONSTRAINT), ("CONVERT".toList, CONVERT), ("COUNT".toList, COUNT),
    ("CREATE".toList, CREATE), ("CROSS".toList, CROSS), ("CURRENT".toList, CURRENT),
    ("CURRENT_DATE".toList, CURRENT_DATE), ("CURRENT_TIME".toList, CURRENT_TIME),
    ("CURRENT_TIMESTAMP".toList, CURRENT_TIMESTAMP)]
  | 'D' =>
    [("DATABASE".toList, DATABASE), ("DATABASES".toList, DATABASES), ("DATE".toList, DATE),
    ("DATE32".toList, DATE32), ("DATETIME".toList, DATETIME), ("DATETIME64".toList, DATETIME64),
    ("DAY".toList, DAY), ("DAYOFWEEK".toList, DAYOFWEEK), ("DAYOFYEAR".toList, DAYOFYEAR),
    ("DEC".toList, DEC), ("DECADE".toList, DECADE), ("DECIMAL".toList, DECIMAL),
    ("DEFAULT".toList, DEFAULT), ("DELAYED".toList, DELAYED), ("DELETE".toList, DELETE),
    ("DESC".toList, DESC), ("DESCRIBE".toList, DESCRIBE), ("DISTINCT".toList, DISTINCT),
    ("DISTRIBUTE".toList, DISTRIBUTE), ("DIV".toList, DIV), ("DO".toList, DO),
    ("DOUBLE".toList, DOUBLE), ("DOW".toList, DOW), ("DOY".toList, DOY), ("DROP".toList, DROP),
    ("DUPLICATE".toList, DUPLICATE)]
  | 'E' =>
    [("ELEMENTS".toList, ELEMENTS), ("ELSE".toList, ELSE), ("END".toList, END),
    ("ENGINE".toList, ENGINE), ("ENUM".toList, ENUM), ("ENUM16".toList, ENUM16),
    ("ENUM8".toList, ENUM8), ("EPOCH".toList, EPOCH), ("ERROR".toList, ERROR),
    ("ESCAPE".toList, ESCAPE), ("EVENT".toList, EVENT), ("EXCEPT".toList, EXCEPT),
    ("EXISTS".toList, EXISTS), ("EXPANSION".toList, EXPANSION), ("EXPLAIN".toList, EXPLAIN),
    ("EXPLICIT".toList, EXPLICIT), ("EXTENDED".toList, EXTENDED), ("EXTRACT".toList, EXTRACT)]
  | 'F' =>
    [("FAIL".toList, FAIL), ("FALSE".toList, FALSE), ("FETCH".toList, FETCH),
    ("FIELDS".toList, FIELDS), ("FIRST".toList, FIRST), ("FIXEDSTRING".toList, FIXEDSTRING),
    ("FLOAT".toList, FLOAT), ("FLOAT32".toList, FLOAT32), ("FLOAT4".toList, FLOAT4),
    ("FLOAT64".toList, FLOAT64), ("FLOAT8".toList, FLOAT8), ("FLOOR".toList, FLOOR),
    ("FN".toList, FN), ("FOLLOWING".toList, FOLLOWING), ("FOR".toList, FOR),
    ("FOREIGN".toList, FOREIGN), ("FORMAT".toList, FORMAT), ("FORMATTED".toList, FORMATTED),
    ("FROM".toList, FROM), ("FULL".toList, FULL), ("FUNCTION".toList, FUNCTION),
    ("FUNCTIONS".toList, FUNCTIONS)]
  | 'G' =>
    [("GLOBAL".toList, GLOBAL), ("GROUP".toList, GROUP), ("GROUPS".toList, GROUPS)]
  | 'H' =>
    [("HAVING".toList, HAVING), ("HIGH_PRIORITY".toList, HIGH_PRIORITY), ("HOUR".toList, HOUR)]
  | 'I' =>
    [("IF".toList, IF), ("IGNORE".toList, IGNORE), ("ILIKE".toList, ILIKE), ("IN".toList, IN),
    ("INCLUDE_NULL_VALUES".toList, INCLUDE_NULL_VALUES), ("INDEX".toList, INDEX),
    ("INNER".toList, INNER), ("INSERT".toList, INSERT), ("INT".toList, INT),
    ("INT128".toList, INT128), ("INT16".toList, INT16), ("INT2".toList, INT2),
    ("INT256".toList, INT256), ("INT32".toList, INT32), ("INT4".toList, INT4),
    ("INT64".toList, INT64), ("INT8".toList, INT8), ("INTEGER".toList, INTEGER),
    ("INTERSECT".toList, INTERSECT), ("INTERVAL".toList, INTERVAL), ("INTO".toList, INTO),
    ("IS".toList, IS), ("ISODOW".toList, ISODOW), ("ISOLATION".toList, ISOLATION),
    ("ISOWEEK".toList, ISOWEEK), ("ISOYEAR".toList, ISOYEAR)]
  | 'J' =>
    [("JOIN".toList, JOIN), ("JSON".toList, JSON), ("JSONB".toList, JSONB), ("JULIAN".toList, JULIAN)]
  | 'K' =>
    [("KEY".toList, KEY), ("KILL".toList, KILL)]
  | 'L' =>
    [("LANGUAGE".toList, LANGUAGE), ("LARGE".toList, LARGE), ("LAST".toList, LAST),
    ("LATERAL".toList, LATERAL), ("LEADING".toList, LEADING), ("LEFT".toList, LEFT),
    ("LEVEL".toList, LEVEL), ("LIKE".toList, LIKE), ("LIMIT".toList, LIMIT),
    ("LOCAL".toList, LOCAL), ("LOCALTIME".toList, LOCALTIME),
    ("LOCALTIMESTAMP".toList, LOCALTIMESTAMP), ("LOCKED".toList, LOCKED),
    ("LONGBLOB".toList, LONGBLOB), ("LONGTEXT".toList, LONGTEXT),
    ("LOW_PRIORITY".toList, LOW_PRIORITY)]
  | 'M' =>
    [("MATCH".toList, MATCH), ("MATCH_CONDITION".toList, MATCH_CONDITION),
    ("MATCH_RECOGNIZE".toList, MATCH_RECOGNIZE), ("MAX".toList, MAX),
    ("MEDIUMBLOB".toList, MEDIUMBLOB), ("MEDIUMINT".toList, MEDIUMINT),
    ("MEDIUMTEXT".toList, MEDIUMTEXT), ("MICROSECOND".toList, MICROSECOND),
    ("MICROSECONDS".toList, MICROSECONDS), ("MILLENIUM".toList, MILLENIUM),
    ("MILLENNIUM".toList, MILLENNIUM), ("MILLISECOND".toList, MILLISECOND),
    ("MILLISECONDS".toList, MILLISECONDS), ("MINUTE".toList, MINUTE), ("MODE".toList, MODE),
    ("MONTH".toList, MONTH), ("MUTATION".toList, MUTATION)]
  | 'N' =>
    [("NAME".toList, NAME), ("NANOSECOND".toList, NANOSECOND), ("NANOSECONDS".toList, NANOSECONDS),
    ("NATURAL".toList, NATURAL), ("NEXT".toList, NEXT), ("NO".toList, NO), ("NOT".toList, NOT),
    ("NOTHING".toList, NOTHING), ("NOWAIT".toList, NOWAIT), ("NULL".toList, NULL),
    ("NULLS".toList, NULLS), ("NUMERIC".toList, NUMERIC), ("NVARCHAR".toList, NVARCHAR)]
  | 'O' =>
    [("OBJECT".toList, OBJECT), ("OCTETS".toList, OCTETS), ("OF".toList, OF),
    ("OFFSET".toList, OFFSET), ("ON".toList, ON), ("ONLY".toList, ONLY),
    ("OPERATOR".toList, OPERATOR), ("OR".toList, OR), ("ORDER".toList, ORDER),
    ("ORDINALITY".toList, ORDINALITY), ("OUTER".toList, OUTER), ("OVER".toList, OVER),
    ("OVERFLOW".toList, OVERFLOW), ("OVERLAY".toList, OVERLAY), ("OVERWRITE".toList, OVERWRITE)]
  | 'P' =>
    [("PARTITION".toList, PARTITION), ("PATH".toList, PATH), ("PERCENT".toList, PERCENT),
    ("PIVOT".toList, PIVOT), ("PLACING".toList, PLACING), ("POSITION".toList, POSITION),
    ("PRECEDING".toList, PRECEDING), ("PRECISION".toList, PRECISION), ("PREWHERE".toList, PREWHERE),
    ("PRIMARY".toList, PRIMARY), ("PROCEDURE".toList, PROCEDURE), ("PURGE".toList, PURGE)]
  | 'Q' =>
    [("QUALIFY".toList, QUALIFY), ("QUARTER".toList, QUARTER), ("QUERY".toList, QUERY)]
  | 'R' =>
    [("RANGE".toList, RANGE), ("RAW".toList, RAW), ("READ".toList, READ), ("REAL".toList, REAL),
    ("RECURSIVE".toList, RECURSIVE), ("REFERENCES".toList, REFERENCES),
    ("REGCLASS".toList, REGCLASS), ("REGEXP".toList, REGEXP), ("RELEASE".toList, RELEASE),
    ("RENAME".toList, RENAME), ("REPEATABLE".toList, REPEATABLE), ("REPLACE".toList, REPLACE),
    ("RESPECT".toList, RESPECT), ("RESTRICT".toList, RESTRICT), ("RETURNING".toList, RETURNING),
    ("RIGHT".toList, RIGHT), ("RLIKE".toList, RLIKE), ("ROLE".toList, ROLE),
    ("ROLLBACK".toList, ROLLBACK), ("ROOT".toList, ROOT), ("ROW".toList, ROW), ("ROWS".toList, ROWS)]
  | 'S' =>
    [("SAFE_CAST".toList, SAFE_CAST), ("SAVEPOINT".toList, SAVEPOINT), ("SCHEMA".toList, SCHEMA),
    ("SCHEMAS".toList, SCHEMAS), ("SECOND".toList, SECOND), ("SELECT".toList, SELECT),
    ("SEMI".toList, SEMI), ("SEPARATOR".toList, SEPARATOR), ("SEQUENCE".toList, SEQUENCE),
    ("SERIALIZABLE".toList, SERIALIZABLE), ("SESSION".toList, SESSION), ("SET".toList, SET),
    ("SETTINGS".toList, SETTINGS), ("SHARE".toList, SHARE), ("SHOW".toList, SHOW),
    ("SIMILAR".toList, SIMILAR), ("SKIP".toList, SKIP), ("SMALLINT".toList, SMALLINT),
    ("SOME".toList, SOME), ("SORT".toList, SORT), ("STAGE".toList, STAGE), ("START".toList, START),
    ("STATUS".toList, STATUS), ("STRING".toList, STRING), ("SUBSTRING".toList, SUBSTRING)]
  | 'T' =>
    [("TABLE".toList, TABLE), ("TABLES".toList, TABLES), ("TEMP".toList, TEMP),
    ("TEMPORARY".toList, TEMPORARY), ("TEXT".toList, TEXT), ("THEN".toList, THEN),
    ("TIES".toList, TIES), ("TIME".toList, TIME), ("TIMESTAMP".toList, TIMESTAMP),
    ("TIMESTAMPTZ".toList, TIMESTAMPTZ), ("TIMETZ".toList, TIMETZ), ("TIMEZONE".toList, TIMEZONE),
    ("TIMEZONE_ABBR".toList, TIMEZONE_ABBR), ("TIMEZONE_HOUR".toList, TIMEZONE_HOUR),
    ("TIMEZONE_MINUTE".toList, TIMEZONE_MINUTE), ("TIMEZONE_REGION".toList, TIMEZONE_REGION),
    ("TINYBLOB".toList, TINYBLOB), ("TINYINT".toList, TINYINT), ("TINYTEXT".toList, TINYTEXT),
    ("TO".toList, TO), ("TOP".toList, TOP), ("TRAILING".toList, TRAILING),
    ("TRANSACTION".toList, TRANSACTION), ("TRIGGER".toList, TRIGGER), ("TRIM".toList, TRIM),
    ("TRUE".toList, TRUE), ("TRUNCATE".toList, TRUNCATE), ("TRY_CAST".toList, TRY_CAST),
    ("TYPE".toList, TYPE)]
  | 'U' =>
    [("UINT128".toList, UINT128), ("UINT16".toList, UINT16), ("UINT256".toList, UINT256),
    ("UINT32".toList, UINT32), ("UINT64".toList, UINT64), ("UINT8".toList, UINT8),
    ("UNBOUNDED".toList, UNBOUNDED), ("UNCOMMITTED".toList, UNCOMMITTED), ("UNION".toList, UNION),
    ("UNIQUE".toList, UNIQUE), ("UNKNOWN".toList, UNKNOWN), ("UNLOGGED".toList, UNLOGGED),
    ("UNNEST".toList, UNNEST), ("UNPIVOT".toList, UNPIVOT), ("UNSIGNED".toList, UNSIGNED),
    ("UPDATE".toList, UPDATE), ("USE".toList, USE), ("USING".toList, USING), ("UUID".toList, UUID)]
  | 'V' =>
    [("VALUES".toList, VALUES), ("VARBINARY".toList, VARBINARY), ("VARCHAR".toList, VARCHAR),
    ("VARIABLES".toList, VARIABLES), ("VARYING".toList, VARYING), ("VERBOSE".toList, VERBOSE),
    ("VIEW".toList, VIEW), ("VIEWS".toList, VIEWS)]
  | 'W' =>
    [("WEEK".toList, WEEK), ("WHEN".toList, WHEN), ("WHERE".toList, WHERE),
    ("WINDOW".toList, WINDOW), ("WITH".toList, WITH), ("WITHIN".toList, WITHIN),
    ("WITHOUT".toList, WITHOUT), ("WITHOUT_ARRAY_WRAPPER".toList, WITHOUT_ARRAY_WRAPPER),
    ("WORK".toList, WORK), ("WRITE".toList, WRITE)]
  | 'X' =>
    [("XML".toList, XML), ("XOR".toList, XOR)]
  | 'Y' =>
    [("YEAR".toList, YEAR)]
  | 'Z' =>
    [("ZONE".toList, ZONE)]
  | _ => []

def othersFrom : Char → List Text
  | 'A' =>
    ["ABS".toList, "ABSOLUTE".toList, "ACCESS".toList, "ACCOUNT".toList, "ADMIN".toList,
    "AGGREGATION".toList, "ALERT".toList, "ALGORITHM".toList, "ALIAS".toList, "ALLOCATE".toList,
    "ALWAYS".toList, "APPLICATION".toList, "APPLYBUDGET".toList, "ARCHIVE".toList, "ARE".toList,
    "ARRAY_MAX_CARDINALITY".toList, "ASENSITIVE".toList, "ASSERT".toList, "ASYMMETRIC".toList,
    "ATOMIC".toList, "ATTACH".toList, "AUDIT".toList, "AUTHENTICATION".toList,
    "AUTHORIZATION".toList, "AUTOINCREMENT".toList, "AVG".toList, "AVRO".toList]
  | 'B' =>
    ["BACKWARD".toList, "BASE_LOCATION".toList, "BEFORE".toList, "BEGIN_FRAME".toList,
    "BEGIN_PARTITION".toList, "BERNOULLI".toList, "BIND".toList, "BINDING".toList, "BLOCK".toList,
    "BLOOMFILTER".toList, "BTREE".toList, "BUCKET".toList, "BUCKETS".toList, "BYPASSRLS".toList]
  | 'C' =>
    ["CACHE".toList, "CALLED".toList, "CARDINALITY".toList, "CASCADED".toList, "CASES".toList,
    "CATALOG".toList, "CATALOG_SYNC".toList, "CATCH".toList, "CEILING".toList, "CHANGE".toList,
    "CHANGE_TRACKING".toList, "CHANNEL".toList, "CHARACTER_LENGTH".toList, "CHARSET".toList,
    "CHAR_LENGTH".toList, "CLEAR".toList, "CLONE".toList, "CLOSE".toList, "CLUSTERED".toList,
    "CLUSTERING".toList, "COALESCE".toList, "COLLECT".toList, "COLLECTION".toList,
    "COLUMNSTORE".toList, "COMPATIBLE".toList, "COMPRESSION".toList, "COMPUTE".toList,
    "CONCURRENTLY".toList, "CONDITION".toList, "CONTAINS".toList, "CONTINUE".toList, "COPY".toList,
    "COPY_OPTIONS".toList, "CORR".toList, "CORRESPONDING".toList, "COVAR_POP".toList,
    "COVAR_SAMP".toList, "CREATEDB".toList, "CREATEROLE".toList, "CREDENTIALS".toList, "CSV".toList,
    "CUBE".toList, "CUME_DIST".toList, "CURRENT_CATALOG".toList,
    "CURRENT_DEFAULT_TRANSFORM_GROUP".toList, "CURRENT_PATH".toList, "CURRENT_ROLE".toList,
    "CURRENT_ROW".toList, "CURRENT_SCHEMA".toList, "CURRENT_TRANSFORM_GROUP_FOR_TYPE".toList,
    "CURRENT_USER".toList, "CURSOR".toList, "CYCLE".toList]
  | 'D' =>
    ["DATA".toList, "DATA_RETENTION_TIME_IN_DAYS".toList, "DEALLOCATE".toList, "DECLARE".toList,
    "DEDUPLICATE".toList, "DEFAULT_DDL_COLLATION".toList, "DEFERRABLE".toList, "DEFERRED".toList,
    "DEFINE".toList, "DEFINED".toList, "DEFINER".toList, "DELIMITED".toList, "DELIMITER".toList,
    "DELTA".toList, "DENSE_RANK".toList, "DEREF".toList, "DETACH".toList, "DETAIL".toList,
    "DETERMINISTIC".toList, "DIRECTORY".toList, "DISABLE".toList, "DISCARD".toList,
    "DISCONNECT".toList, "DRY".toList, "DYNAMIC".toList]
  | 'E' =>
    ["EACH".toList, "ELEMENT".toList, "EMPTY".toList, "ENABLE".toList,
    "ENABLE_SCHEMA_EVOLUTION".toList, "ENCODING".toList, "ENCRYPTION".toList, "ENDPOINT".toList,
    "END_FRAME".toList, "END_PARTITION".toList, "ENFORCED".toList, "EPHEMERAL".toList,
    "EQUALS".toList, "ESCAPED".toList, "ESTIMATE".toList, "EVERY".toList, "EVOLVE".toList,
    "EXCEPTION".toList, "EXCHANGE".toList, "EXCLUDE".toList, "EXCLUSIVE".toList, "EXEC".toList,
    "EXECUTE".toList, "EXECUTION".toList, "EXP".toList, "EXPORT".toList, "EXTENSION".toList,
    "EXTERNAL".toList, "EXTERNAL_VOLUME".toList]
  | 'F' =>
    ["FAILOVER".toList, "FILE".toList, "FILES".toList, "FILE_FORMAT".toList, "FILL".toList,
    "FILTER".toList, "FINAL".toList, "FIRST_VALUE".toList, "FLATTEN".toList, "FLUSH".toList,
    "FORCE".toList, "FORCE_NOT_NULL".toList, "FORCE_NULL".toList, "FORCE_QUOTE".toList,
    "FORWARD".toList, "FRAME_ROW".toList, "FREE".toList, "FREEZE".toList, "FSCK".toList,
    "FULFILLMENT".toList, "FULLTEXT".toList, "FUSION".toList]
  | 'G' =>
    ["GENERAL".toList, "GENERATE".toList, "GENERATED".toList, "GEOGRAPHY".toList, "GET".toList,
    "GRANT".toList, "GRANTED".toList, "GRANTS".toList, "GRAPHVIZ".toList, "GROUPING".toList]
  | 'H' =>
    ["HASH".toList, "HEADER".toList, "HEAP".toList, "HISTORY".toList, "HIVEVAR".toList,
    "HOLD".toList, "HOSTS".toList, "HOURS".toList]
  | 'I' =>
    ["IDENTIFIED".toList, "IDENTITY".toList, "IDENTITY_INSERT".toList, "IMMEDIATE".toList,
    "IMMUTABLE".toList, "IMPORT".toList, "INCLUDE".toList, "INCREMENT".toList, "INDICATOR".toList,
    "INHERIT".toList, "INITIALLY".toList, "INOUT".toList, "INPATH".toList, "INPUT".toList,
    "INPUTFORMAT".toList, "INSENSITIVE".toList, "INSTALL".toList, "INSTEAD".toList,
    "INTEGRATION".toList, "INTERPOLATE".toList, "INTERSECTION".toList, "INVOKER".toList,
    "ITEMS".toList]
  | 'J' =>
    ["JAR".toList, "JSONFILE".toList, "JSON_TABLE".toList]
  | 'K' =>
    ["KEYS".toList]
  | 'L' =>
    ["LAG".toList, "LAST_VALUE".toList, "LEAD".toList, "LIKE_REGEX".toList, "LINES".toList,
    "LIST".toList, "LISTEN".toList, "LN".toList, "LOAD".toList, "LOCATION".toList, "LOCK".toList,
    "LOG".toList, "LOGIN".toList, "LOGS".toList, "LOWCARDINALITY".toList, "LOWER".toList]
  | 'M' =>
    ["MACRO".toList, "MANAGE".toList, "MANAGEDLOCATION".toList, "MAP".toList, "MASKING".toList,
    "MATCHED".toList, "MATCHES".toList, "MATERIALIZE".toList, "MATERIALIZED".toList,
    "MAXVALUE".toList, "MAX_DATA_EXTENSION_TIME_IN_DAYS".toList, "MEASURES".toList, "MEMBER".toList,
    "MERGE".toList, "METADATA".toList, "METHOD".toList, "METRIC".toList, "MIN".toList,
    "MINUTES".toList, "MINVALUE".toList, "MOD".toList, "MODIFIES".toList, "MODIFY".toList,
    "MODULE".toList, "MONITOR".toList, "MONTHS".toList, "MSCK".toList, "MULTISET".toList]
  | 'N' =>
    ["NATIONAL".toList, "NCHAR".toList, "NCLOB".toList, "NESTED".toList, "NETWORK".toList,
    "NEW".toList, "NFC".toList, "NFD".toList, "NFKC".toList, "NFKD".toList, "NOBYPASSRLS".toList,
    "NOCREATEDB".toList, "NOCREATEROLE".toList, "NOINHERIT".toList, "NOLOGIN".toList, "NONE".toList,
    "NOORDER".toList, "NOREPLICATION".toList, "NORMALIZE".toList, "NOSCAN".toList,
    "NOSUPERUSER".toList, "NOTIFY".toList, "NO_WRITE_TO_BINLOG".toList, "NTH_VALUE".toList,
    "NTILE".toList, "NULLABLE".toList, "NULLIF".toList]
  | 'O' =>
    ["OCCURRENCES_REGEX".toList, "OCTET_LENGTH".toList, "OFF".toList, "OFFSETS".toList, "OLD".toList,
    "OMIT".toList, "ONE".toList, "OPEN".toList, "OPENJSON".toList, "OPERATE".toList,
    "OPTIMIZATION".toList, "OPTIMIZE".toList, "OPTIMIZER_COSTS".toList, "OPTION".toList,
    "OPTIONS".toList, "ORC".toList, "ORGANIZATION".toList, "OUT".toList, "OUTPUTFORMAT".toList,
    "OVERLAPS".toList, "OVERRIDE".toList, "OWNED".toList, "OWNER".toList, "OWNERSHIP".toList]
  | 'P' =>
    ["PACKAGE".toList, "PACKAGES".toList, "PARALLEL".toList, "PARAMETER".toList, "PARQUET".toList,
    "PART".toList, "PARTITIONED".toList, "PARTITIONS".toList, "PASSING".toList, "PASSWORD".toList,
    "PAST".toList, "PATTERN".toList, "PER".toList, "PERCENTILE_CONT".toList,
    "PERCENTILE_DISC".toList, "PERCENT_RANK".toList, "PERIOD".toList, "PERMISSIVE".toList,
    "PERSISTENT".toList, "PLAN".toList, "PLANS".toList, "POLICY".toList, "PORTION".toList,
    "POSITION_REGEX".toList, "POWER".toList, "PRAGMA".toList, "PRECEDES".toList, "PREPARE".toList,
    "PRESERVE".toList, "PRIOR".toList, "PRIVILEGES".toList, "PROFILE".toList, "PROGRAM".toList,
    "PROJECTION".toList, "PUBLIC".toList, "PURCHASE".toList]
  | 'Q' =>
    ["QUOTE".toList]
  | 'R' =>
    ["RANK".toList, "RCFILE".toList, "READS".toList, "READ_ONLY".toList, "RECLUSTER".toList,
    "REF".toList, "REFERENCING".toList, "REGR_AVGX".toList, "REGR_AVGY".toList, "REGR_COUNT".toList,
    "REGR_INTERCEPT".toList, "REGR_R2".toList, "REGR_SLOPE".toList, "REGR_SXX".toList,
    "REGR_SXY".toList, "REGR_SYY".toList, "RELATIVE".toList, "RELAY".toList, "REMOTE".toList,
    "REORG".toList, "REPAIR".toList, "REPLICA".toList, "REPLICATION".toList, "RESET".toList,
    "RESOLVE".toList, "RESTART".toList, "RESTRICTED".toList, "RESTRICTIVE".toList, "RESULT".toList,
    "RESULTSET".toList, "RESUME".toList, "RETAIN".toList, "RETURN".toList, "RETURNS".toList,
    "REVOKE".toList, "ROLES".toList, "ROLLUP".toList, "ROWID".toList, "ROW_FORMAT".toList,
    "ROW_NUMBER".toList, "RULE".toList, "RUN".toList]
  | 'S' =>
    ["SAFE".toList, "SAMPLE".toList, "SCOPE".toList, "SCROLL".toList, "SEARCH".toList,
    "SECONDARY".toList, "SECRET".toList, "SECURITY".toList, "SENSITIVE".toList,
    "SEQUENCEFILE".toList, "SEQUENCES".toList, "SERDE".toList, "SERDEPROPERTIES".toList,
    "SESSION_USER".toList, "SETERROR".toList, "SETS".toList, "SLOW".toList, "SNAPSHOT".toList,
    "SORTED".toList, "SOURCE".toList, "SPATIAL".toList, "SPECIFIC".toList, "SPECIFICTYPE".toList,
    "SQL".toList, "SQLEXCEPTION".toList, "SQLSTATE".toList, "SQLWARNING".toList, "SQRT".toList,
    "STABLE".toList, "STARTS".toList, "STATEMENT".toList, "STATIC".toList, "STATISTICS".toList,
    "STDDEV_POP".toList, "STDDEV_SAMP".toList, "STDIN".toList, "STDOUT".toList, "STEP".toList,
    "STORAGE_INTEGRATION".toList, "STORAGE_SERIALIZATION_POLICY".toList, "STORED".toList,
    "STRICT".toList, "STRUCT".toList, "SUBMULTISET".toList, "SUBSTRING_REGEX".toList,
    "SUCCEEDS".toList, "SUM".toList, "SUPER".toList, "SUPERUSER".toList, "SUPPORT".toList,
    "SUSPEND".toList, "SWAP".toList, "SYMMETRIC".toList, "SYNC".toList, "SYSTEM".toList,
    "SYSTEM_TIME".toList, "SYSTEM_USER".toList]
  | 'T' =>
    ["TABLESAMPLE".toList, "TAG".toList, "TARGET".toList, "TBLPROPERTIES".toList, "TEMPTABLE".toList,
    "TERMINATED".toList, "TERSE".toList, "TEXTFILE".toList, "TOTALS".toList, "TRACE".toList,
    "TRANSIENT".toList, "TRANSLATE".toList, "TRANSLATE_REGEX".toList, "TREAT".toList, "TREE".toList,
    "TRIM_ARRAY".toList, "TRY".toList, "TRY_CONVERT".toList, "TUPLE".toList]
  | 'U' =>
    ["UESCAPE".toList, "UNCACHE".toList, "UNDEFINED".toList, "UNFREEZE".toList, "UNLISTEN".toList,
    "UNLOAD".toList, "UNLOCK".toList, "UNMATCHED".toList, "UNSAFE".toList, "UNTIL".toList,
    "UPPER".toList, "URL".toList, "USAGE".toList, "USER".toList, "USER_RESOURCES".toList]
  | 'V' =>
    ["VACUUM".toList, "VALID".toList, "VALIDATION_MODE".toList, "VALUE".toList, "VALUE_OF".toList,
    "VAR_POP".toList, "VAR_SAMP".toList, "VERSION".toList, "VERSIONING".toList, "VERSIONS".toList,
    "VIRTUAL".toList, "VOLATILE".toList]
  | 'W' =>
    ["WAREHOUSE".toList, "WEEKS".toList, "WHENEVER".toList, "WIDTH_BUCKET".toList]
  | 'Y' =>
    ["YEARS".toList]
  | 'Z' =>
    ["ZORDER".toList]
  | _ => []

end Keyword

/-- The capitals of a character, as far as they are ASCII letters. -/
def capitals (c : Char) : Text :=
  match c with
  | 'ı' => ['I']
  | 'ſ' => ['S']
  | 'ß' => ['S', 'S']
  | 'ﬀ' => ['F', 'F']
  | 'ﬁ' => ['F', 'I']
  | 'ﬂ' => ['F', 'L']
  | 'ﬃ' => ['F', 'F', 'I']
  | 'ﬄ' => ['F', 'F', 'L']
  | 'ﬅ' => ['S', 'T']
  | 'ﬆ' => ['S', 'T']
  | _ => [c.toUpper]

def Keyword.ofWord? (word : Text) : Option Keyword :=
  match word.flatMap capitals with
  | [] => none
  | first :: rest =>
    match (spelledFrom first).lookup (first :: rest) with
    | some key => some key
    | none => if first :: rest ∈ othersFrom first then some other else none

end FilterQuery.Sql
