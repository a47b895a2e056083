/-!
# The fixed words of GAUSS

Four lists of words in lower case: predefined constants, reserved words, words that open a
declaration, and the procedures of the run-time library. A word may be on several lists.
-/

namespace GaussMarkup

def literalWords : List String := [
  "db_after_last_row", "db_all_tables", "db_batch_operations", "db_before_first_row", "db_blob",
  "db_event_notifications", "db_finish_query", "db_high_precision", "db_last_insert_id",
  "db_low_precision_double", "db_low_precision_int32", "db_low_precision_int64",
  "db_low_precision_numbers", "db_multiple_result_sets", "db_named_placeholders",
  "db_positional_placeholders", "db_prepared_queries", "db_query_size", "db_simple_locking",
  "db_system_tables", "db_tables", "db_transactions", "db_unicode", "db_views", "__stdin",
  "__stdout", "__stderr"]

/-- Reserved words and the words that open statements. -/
def keywordWords : List String := [
  "and", "bool", "break", "call", "callexe", "checkinterrupt", "clear", "clearg", "closeall",
  "cls", "comlog", "compile", "continue", "create", "debug", "declare", "delete", "disable",
  "dlibrary", "dllcall", "do", "dos", "edit", "ed", "else", "elseif", "enable", "end", "endfor",
  "endif", "endp", "endo", "errorlog", "errorlogat", "expr", "external", "fn", "format", "for",
  "goto", "gosub", "graph", "if", "keyword", "lib", "library", "line", "load", "loadarray",
  "loadexe", "loadf", "loadk", "loadm", "loadp", "loads", "loadx", "locate", "loopnextindex",
  "lprint", "lpwidth", "lshow", "msym", "ndpclex", "new", "not", "open", "or", "output",
  "outwidth", "plotsym", "plot", "pop", "prcsn", "print", "printdos", "proc", "push", "retp",
  "return", "rndcon", "rndmod", "rndmult", "rndseed", "run", "saveall", "save", "screen", "scroll",
  "setarray", "show", "stop", "system", "trace", "trap", "threadfor", "threadendfor",
  "threadbegin", "threadjoin", "threadstat", "threadend", "until", "use", "while", "winprint",
  "with"]

def declarationWords : List String := [
  "struct", "local", "matrix", "string", "array", "scalar", "sparse", "let"]

/-- Procedures of the run-time library. -/
def builtinWords : List String := [
  "abs", "acf", "aconcat", "aeye", "amax", "amean", "americanbinomcall",
  "americanbinomcall_greeks", "americanbinomcall_impvol", "americanbinomput",
  "americanbinomput_greeks", "americanbinomput_impvol", "americanbscall", "americanbscall_greeks",
  "americanbscall_impvol", "americanbsput", "americanbsput_greeks", "americanbsput_impvol", "amin",
  "amult", "annotationgetdefaults", "annotationsetbkd", "annotationsetfont",
  "annotationsetlinecolor", "annotationsetlinestyle", "annotationsetlinethickness",
  "annualtradingdays", "arccos", "arcsin", "areshape", "arrayalloc", "arrayindex", "arrayinit",
  "arraytomat", "asciiload", "asclabel", "astd", "astds", "asum", "atan", "atan2", "atranspose",
  "axmargin", "balance", "band", "bandchol", "bandcholsol", "bandltsol", "bandrv", "bandsolpd",
  "bar", "base10", "begwind", "besselj", "bessely", "beta", "box", "boxcox", "cdfbeta",
  "cdfbetainv", "cdfbinomial", "cdfbinomialinv", "cdfbvn", "cdfbvn2", "cdfbvn2e", "cdfcauchy",
  "cdfcauchyinv", "cdfchic", "cdfchii", "cdfchinc", "cdfchincinv", "cdfexp", "cdfexpinv", "cdffc",
  "cdffnc", "cdffncinv", "cdfgam", "cdfgenpareto", "cdfhypergeo", "cdflaplace", "cdflaplaceinv",
  "cdflogistic", "cdflogisticinv", "cdfmcontrolcreate", "cdfmvn", "cdfmvn2e", "cdfmvnce",
  "cdfmvne", "cdfmvt2e", "cdfmvtce", "cdfmvte", "cdfn", "cdfn2", "cdfnc", "cdfnegbinomial",
  "cdfnegbinomialinv", "cdfni", "cdfpoisson", "cdfpoissoninv", "cdfrayleigh", "cdfrayleighinv",
  "cdftc", "cdftci", "cdftnc", "cdftvn", "cdfweibull", "cdfweibullinv", "cdir", "ceil",
  "changedir", "chdir", "chibarsquare", "chol", "choldn", "cholsol", "cholup", "chrs", "close",
  "code", "cols", "colsf", "combinate", "combinated", "complex", "con", "cond", "conj", "cons",
  "conscore", "contour", "conv", "convertsatostr", "convertstrtosa", "corrm", "corrms", "corrvc",
  "corrx", "corrxs", "cos", "cosh", "counts", "countwts", "crossprd", "crout", "croutp", "csrcol",
  "csrlin", "csvreadm", "csvreadsa", "cumprodc", "cumsumc", "curve", "cvtos", "datacreate",
  "datacreatecomplex", "datalist", "dataload", "dataloop", "dataopen", "datasave", "date",
  "datestr", "datestring", "datestrymd", "dayinyr", "dayofweek", "dbadddatabase", "dbclose",
  "dbcommit", "dbcreatequery", "dbexecquery", "dbgetconnectoptions", "dbgetdatabasename",
  "dbgetdrivername", "dbgetdrivers", "dbgethostname", "dbgetlasterrornum", "dbgetlasterrortext",
  "dbgetnumericalprecpolicy", "dbgetpassword", "dbgetport", "dbgettableheaders", "dbgettables",
  "dbgetusername", "dbhasfeature", "dbisdriveravailable", "dbisopen", "dbisopenerror", "dbopen",
  "dbquerybindvalue", "dbqueryclear", "dbquerycols", "dbqueryexecprepared", "dbqueryfetchallm",
  "dbqueryfetchallsa", "dbqueryfetchonem", "dbqueryfetchonesa", "dbqueryfinish",
  "dbquerygetboundvalue", "dbquerygetboundvalues", "dbquerygetfield", "dbquerygetlasterrornum",
  "dbquerygetlasterrortext", "dbquerygetlastinsertid", "dbquerygetlastquery", "dbquerygetposition",
  "dbqueryisactive", "dbqueryisforwardonly", "dbqueryisnull", "dbqueryisselect", "dbqueryisvalid",
  "dbqueryprepare", "dbqueryrows", "dbqueryseek", "dbqueryseekfirst", "dbqueryseeklast",
  "dbqueryseeknext", "dbqueryseekprevious", "dbquerysetforwardonly", "dbremovedatabase",
  "dbrollback", "dbsetconnectoptions", "dbsetdatabasename", "dbsethostname",
  "dbsetnumericalprecpolicy", "dbsetport", "dbsetusername", "dbtransaction", "deletefile", "delif",
  "delrows", "densetosp", "densetospre", "dentozero", "design", "det", "detl", "dfft", "dffti",
  "diag", "diagrv", "digamma", "doswin", "doswincloseall", "doswinopen", "dotfeq", "dotfeqmt",
  "dotfge", "dotfgemt", "dotfgt", "dotfgtmt", "dotfle", "dotflemt", "dotflt", "dotfltmt", "dotfne",
  "dotfnemt", "draw", "drop", "dscreate", "dstat", "dstatmt", "dstatmtcontrolcreate", "dtdate",
  "dtday", "dttime", "dttodtv", "dttostr", "dttoutc", "dtvnormal", "dtvtodt", "dtvtoutc", "dummy",
  "dummybr", "dummydn", "eig", "eigh", "eighv", "eigv", "elapsedtradingdays", "endwind", "envget",
  "eof", "eqsolve", "eqsolvemt", "eqsolvemtcontrolcreate", "eqsolvemtoutcreate", "eqsolveset",
  "erf", "erfc", "erfccplx", "erfcplx", "error", "etdays", "ethsec", "etstr", "europeanbinomcall",
  "europeanbinomcall_greeks", "europeanbinomcall_impvol", "europeanbinomput",
  "europeanbinomput_greeks", "europeanbinomput_impvol", "europeanbscall", "europeanbscall_greeks",
  "europeanbscall_impvol", "europeanbsput", "europeanbsput_greeks", "europeanbsput_impvol",
  "exctsmpl", "exec", "execbg", "exp", "extern", "eye", "fcheckerr", "fclearerr", "feq", "feqmt",
  "fflush", "fft", "ffti", "fftm", "fftmi", "fftn", "fge", "fgemt", "fgets", "fgetsa", "fgetsat",
  "fgetst", "fgt", "fgtmt", "fileinfo", "filesa", "fle", "flemt", "floor", "flt", "fltmt", "fmod",
  "fne", "fnemt", "fonts", "fopen", "formatcv", "formatnv", "fputs", "fputst", "fseek",
  "fstrerror", "ftell", "ftocv", "ftos", "ftostrc", "gamma", "gammacplx", "gammaii", "gausset",
  "gdaappend", "gdacreate", "gdadstat", "gdadstatmat", "gdagetindex", "gdagetname", "gdagetnames",
  "gdagetorders", "gdagettype", "gdagettypes", "gdagetvarinfo", "gdaiscplx", "gdaload", "gdapack",
  "gdaread", "gdareadbyindex", "gdareadsome", "gdareadsparse", "gdareadstruct", "gdareportvarinfo",
  "gdasave", "gdaupdate", "gdaupdateandpack", "gdavars", "gdawrite", "gdawrite32", "gdawritesome",
  "getarray", "getdims", "getf", "getgausshome", "getmatrix", "getmatrix4d", "getname", "getnamef",
  "getnexttradingday", "getnextweekday", "getnr", "getorders", "getpath", "getprevioustradingday",
  "getpreviousweekday", "getrow", "getscalar3d", "getscalar4d", "gettrrow", "getwind", "glm",
  "gradcplx", "gradmt", "gradmtm", "gradmtt", "gradmttm", "gradp", "graphprt", "graphset",
  "hasimag", "header", "headermt", "hess", "hessmt", "hessmtg", "hessmtgw", "hessmtm", "hessmtmw",
  "hessmtt", "hessmttg", "hessmttgw", "hessmttm", "hessmtw", "hessp", "hist", "histf", "histp",
  "hsec", "imag", "indcv", "indexcat", "indices", "indices2", "indicesf", "indicesfn", "indnv",
  "indsav", "indx", "integrate1d", "integratecontrolcreate", "intgrat2", "intgrat3", "inthp1",
  "inthp2", "inthp3", "inthp4", "inthpcontrolcreate", "intquad1", "intquad2", "intquad3",
  "intrleav", "intrleavsa", "intrsect", "intsimp", "inv", "invpd", "invswp", "iscplx", "iscplxf",
  "isden", "isinfnanmiss", "ismiss", "key", "keyav", "keyw", "lag", "lag1", "lagn", "lapeighb",
  "lapeighi", "lapeighvb", "lapeighvi", "lapgeig", "lapgeigh", "lapgeighv", "lapgeigv",
  "lapgschur", "lapgsvdcst", "lapgsvds", "lapgsvdst", "lapsvdcusv", "lapsvds", "lapsvdusv", "ldlp",
  "ldlsol", "linsolve", "listwise", "ln", "lncdfbvn", "lncdfbvn2", "lncdfmvn", "lncdfn", "lncdfn2",
  "lncdfnc", "lnfact", "lngammacplx", "lnpdfmvn", "lnpdfmvt", "lnpdfn", "lnpdft", "loadd",
  "loadstruct", "loadwind", "loess", "loessmt", "loessmtcontrolcreate", "log", "loglog", "logx",
  "logy", "lower", "lowmat", "lowmat1", "ltrisol", "lu", "lusol", "machepsilon", "make",
  "makevars", "makewind", "margin", "matalloc", "matinit", "mattoarray", "maxbytes", "maxc",
  "maxindc", "maxv", "maxvec", "mbesselei", "mbesselei0", "mbesselei1", "mbesseli", "mbesseli0",
  "mbesseli1", "meanc", "median", "mergeby", "mergevar", "minc", "minindc", "minv", "miss",
  "missex", "missrv", "moment", "momentd", "movingave", "movingaveexpwgt", "movingavewgt",
  "nextindex", "nextn", "nextnevn", "nextwind", "ntos", "null", "null1", "numcombinations", "ols",
  "olsmt", "olsmtcontrolcreate", "olsqr", "olsqr2", "olsqrmt", "ones", "optn", "optnevn", "orth",
  "outtyp", "pacf", "packedtosp", "packr", "parse", "pause", "pdfcauchy", "pdfchi", "pdfexp",
  "pdfgenpareto", "pdfhypergeo", "pdflaplace", "pdflogistic", "pdfn", "pdfpoisson", "pdfrayleigh",
  "pdfweibull", "pi", "pinv", "pinvmt", "plotaddarrow", "plotaddbar", "plotaddbox", "plotaddhist",
  "plotaddhistf", "plotaddhistp", "plotaddpolar", "plotaddscatter", "plotaddshape",
  "plotaddtextbox", "plotaddts", "plotaddxy", "plotarea", "plotbar", "plotbox", "plotclearlayout",
  "plotcontour", "plotcustomlayout", "plotgetdefaults", "plothist", "plothistf", "plothistp",
  "plotlayout", "plotloglog", "plotlogx", "plotlogy", "plotopenwindow", "plotpolar", "plotsave",
  "plotscatter", "plotsetaxespen", "plotsetbar", "plotsetbarfill", "plotsetbarstacked",
  "plotsetbkdcolor", "plotsetfill", "plotsetgrid", "plotsetlegend", "plotsetlinecolor",
  "plotsetlinestyle", "plotsetlinesymbol", "plotsetlinethickness", "plotsetnewwindow",
  "plotsettitle", "plotsetwhichyaxis", "plotsetxaxisshow", "plotsetxlabel", "plotsetxrange",
  "plotsetxticinterval", "plotsetxticlabel", "plotsetyaxisshow", "plotsetylabel", "plotsetyrange",
  "plotsetzaxisshow", "plotsetzlabel", "plotsurface", "plotts", "plotxy", "polar", "polychar",
  "polyeval", "polygamma", "polyint", "polymake", "polymat", "polymroot", "polymult", "polyroot",
  "pqgwin", "previousindex", "princomp", "printfm", "printfmt", "prodc", "psi", "putarray", "putf",
  "putvals", "pvcreate", "pvgetindex", "pvgetparnames", "pvgetparvector", "pvlength", "pvlist",
  "pvpack", "pvpacki", "pvpackm", "pvpackmi", "pvpacks", "pvpacksi", "pvpacksm", "pvpacksmi",
  "pvputparvector", "pvtest", "pvunpack", "qnewton", "qnewtonmt", "qnewtonmtcontrolcreate",
  "qnewtonmtoutcreate", "qnewtonset", "qprog", "qprogmt", "qprogmtincreate", "qqr", "qqre",
  "qqrep", "qr", "qre", "qrep", "qrsol", "qrtsol", "qtyr", "qtyre", "qtyrep", "quantile",
  "quantiled", "qyr", "qyre", "qyrep", "qz", "rank", "rankindx", "readr", "real", "reclassify",
  "reclassifycuts", "recode", "recserar", "recsercp", "recserrc", "rerun", "rescale", "reshape",
  "rets", "rev", "rfft", "rffti", "rfftip", "rfftn", "rfftnp", "rfftp", "rndbernoulli", "rndbeta",
  "rndbinomial", "rndcauchy", "rndchisquare", "rndcon", "rndcreatestate", "rndexp", "rndgamma",
  "rndgeo", "rndgumbel", "rndhypergeo", "rndi", "rndkmbeta", "rndkmgam", "rndkmi", "rndkmn",
  "rndkmnb", "rndkmp", "rndkmu", "rndkmvm", "rndlaplace", "rndlcbeta", "rndlcgam", "rndlci",
  "rndlcn", "rndlcnb", "rndlcp", "rndlcu", "rndlcvm", "rndlognorm", "rndmtu", "rndmvn", "rndmvt",
  "rndn", "rndnb", "rndnegbinomial", "rndp", "rndpoisson", "rndrayleigh", "rndstateskip", "rndu",
  "rndvm", "rndweibull", "rndwishart", "rotater", "round", "rows", "rowsf", "rref", "sampledata",
  "satostrc", "saved", "savestruct", "savewind", "scale", "scale3d", "scalerr", "scalinfnanmiss",
  "scalmiss", "schtoc", "schur", "searchsourcepath", "seekr", "select", "selif", "seqa", "seqm",
  "setdif", "setdifsa", "setvars", "setvwrmode", "setwind", "shell", "shiftr", "sin",
  "singleindex", "sinh", "sleep", "solpd", "sortc", "sortcc", "sortd", "sorthc", "sorthcc",
  "sortind", "sortindc", "sortmc", "sortr", "sortrc", "spbiconjgradsol", "spchol", "spconjgradsol",
  "spcreate", "spdensesubmat", "spdiagrvmat", "speigv", "speye", "spldl", "spline", "splu",
  "spnumnze", "spones", "spreadsheetreadm", "spreadsheetreadsa", "spreadsheetwrite", "spscale",
  "spsubmat", "sptodense", "sptrtdense", "sptscalar", "spzeros", "sqpsolve", "sqpsolvemt",
  "sqpsolvemtcontrolcreate", "sqpsolvemtlagrangecreate", "sqpsolvemtoutcreate", "sqpsolveset",
  "sqrt", "statements", "stdc", "stdsc", "stocv", "stof", "strcombine", "strindx", "strlen",
  "strput", "strrindx", "strsect", "strsplit", "strsplitpad", "strtodt", "strtof", "strtofcplx",
  "strtriml", "strtrimr", "strtrim", "strtrunc", "strtruncl", "strtruncpad", "strtruncr", "submat",
  "subscat", "substute", "subvec", "sumc", "sumr", "surface", "svd", "svd1", "svd2", "svdcusv",
  "svds", "svdusv", "sysstate", "tab", "tan", "tanh", "tempname", "threadbegin", "threadend",
  "threadendfor", "threadfor", "threadjoin", "threadstat", "time", "timedt", "timestr", "timeutc",
  "title", "tkf2eps", "tkf2ps", "tocart", "todaydt", "toeplitz", "token", "topolar", "trapchk",
  "trigamma", "trimr", "trunc", "type", "typecv", "typef", "union", "unionsa", "uniqindx",
  "uniqindxsa", "unique", "uniquesa", "upmat", "upmat1", "upper", "utctodt", "utctodtv", "utrisol",
  "vals", "varcovms", "varcovxs", "varget", "vargetl", "varmall", "varmares", "varput", "varputl",
  "vartypef", "vcm", "vcms", "vcx", "vcxs", "vec", "vech", "vecr", "vector", "vget", "view",
  "viewxyz", "vlist", "vnamecv", "volume", "vput", "vread", "vtypecv", "wait", "waitc",
  "walkindex", "where", "window", "writer", "xlabel", "xlsgetsheetcount", "xlsgetsheetsize",
  "xlsgetsheettypes", "xlsmakerange", "xlsreadm", "xlsreadsa", "xlswrite", "xlswritem",
  "xlswritesa", "xpnd", "xtics", "xy", "xyz", "ylabel", "ytics", "zeros", "zeta", "zlabel",
  "ztics"]

end GaussMarkup
